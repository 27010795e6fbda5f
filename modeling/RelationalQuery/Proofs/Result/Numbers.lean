import RelationalQuery.Proofs.Result.Pages

/-! The numbers of a page at the limits of a word. They are exact as far as the rows in front of
the page and those on it fit a word together. Behind that the offset stands still, and with it the
page that is told. -/
namespace RelationalQuery

open Json (Value)

/-! ### Whole parts -/

section
open Float.Model UnpackedFloat

theorem mantissa_shiftRight (n : Nat) (m : ExtendedMantissa) :
    (m >>> n).mantissa = m.mantissa / 2 ^ n := by
  induction n with
  | zero => simp [HShiftRight.hShiftRight, Nat.repeat]
  | succ n ih =>
    change (ExtendedMantissa.shiftRightOne (m >>> n)).mantissa = _
    rw [ExtendedMantissa.shiftRightOne, ih, Nat.div_div_eq_div_mul, Nat.pow_succ]

/-- A mantissa with its leading bit is not cut to nothing unless it lies behind the point. -/
theorem one_le_roundToInt {m : Nat} {e : Int} (hm : 2 ^ 52 ≤ m) (he : -52 ≤ e) :
    1 ≤ roundToInt .positive m e := by
  have hround : roundToInt .positive m e =
      ((m <<< (e - 0).toNat / 2 ^ (0 - (e - (e - 0).toNat)).toNat : Nat) : Int) := by
    simp only [roundToInt, decreaseExponent, shiftToExponent, mantissa_shiftRight]
    rfl
  have hle : 2 ^ (0 - (e - (e - 0).toNat)).toNat ≤ 2 ^ 52 :=
    Nat.pow_le_pow_right (by decide) (by omega)
  have hmul : m ≤ m <<< (e - 0).toNat := by
    rw [Nat.shiftLeft_eq]
    exact Nat.le_mul_of_pos_right m (Nat.two_pow_pos _)
  have hdiv := Nat.div_pos (hle.trans (hm.trans hmul)) (Nat.two_pow_pos _)
  rw [hround]
  omega

/-- Above the least exponent the leading bit is there. -/
theorem two_pow_le_of_unpack {b : BitVec Format.binary64.numBits} {s : Sign} {m : Nat} {e : Int}
    {h : 0 < m} (hb : UnpackedFloat.unpack Format.binary64 b = .finite s m e h) (he : -1074 < e) :
    2 ^ 52 ≤ m := by
  unfold UnpackedFloat.unpack at hb
  dsimp only at hb
  by_cases hgreatest : unpackExponent b = -1#(Format.binary64.exponentBits)
  · rw [if_pos hgreatest] at hb
    by_cases hzero : unpackMantissa b = 0#(Format.binary64.mantissaBitsWithoutImplicit)
    · rw [if_pos hzero] at hb
      cases hb
    · rw [if_neg hzero] at hb
      cases hb
  rw [if_neg hgreatest] at hb
  by_cases hleast : unpackExponent b = 0#(Format.binary64.exponentBits)
  · rw [if_pos hleast] at hb
    by_cases hzero : unpackMantissa b = 0#(Format.binary64.mantissaBitsWithoutImplicit)
    · rw [dif_pos hzero] at hb
      cases hb
    · rw [dif_neg hzero] at hb
      cases hb
      rw [hleast] at he
      exact absurd he (by decide)
  · rw [if_neg hleast] at hb
    cases hb
    rw [BitVec.toNat_append]
    change 2 ^ 52 ≤ 1 <<< 52 ||| _
    exact Nat.left_le_or

theorem unpack_one :
    (1.0 : Float).toModel.unpack = .finite .positive (2 ^ 52) (-52) (by decide) := rfl

theorem le_exponent_of_one_le {m : Nat} {e : Int} {h : 0 < m}
    (hle : ((1.0 : Float).toModel.unpack.compare (.finite .positive m e h)).any
      Ordering.isLE = true) : -52 ≤ e := by
  by_contra hlt
  have hgt : compare (-52) e = .gt := Int.compare_eq_gt.2 (by omega)
  rw [unpack_one] at hle
  change (some ((compare (-52) e).then (compare (2 ^ 52) m))).any Ordering.isLE = true at hle
  rw [hgt] at hle
  cases hle

theorem one_le_toUInt64 {f : Float} (hfinite : f.isFinite = true) (hone : 1.0 ≤ f) :
    1 ≤ f.toUInt64.toNat := by
  have hle : ((1.0 : Float).toModel.unpack.compare f.toModel.unpack).any Ordering.isLE = true :=
    of_decide_eq_true hone
  unfold Float.isFinite Float.Model.isFinite at hfinite
  unfold Float.toUInt64 Float.Model.toUInt64
  cases hf : f.toModel.unpack with
  | notANumber =>
    rw [hf] at hfinite
    cases hfinite
  | infinity s =>
    rw [hf] at hfinite
    cases hfinite
  | zero s =>
    rw [hf, unpack_one] at hle
    cases s <;> cases hle
  | finite s m e h =>
    rw [hf] at hle
    cases s with
    | negative =>
      rw [unpack_one] at hle
      cases hle
    | positive =>
      have he := le_exponent_of_one_le hle
      have hround := one_le_roundToInt (two_pow_le_of_unpack hf (by omega)) he
      change 1 ≤ (UInt64.ofNatClamp (roundToInt .positive m e).toNat).toNat
      rw [UInt64.ofNatClamp]
      split
      · rw [UInt64.toNat_ofNatLT]
        omega
      · decide

end

/-- Whatever asks for a page, there is no page in front of the first. -/
theorem one_le_normalizePage (value : Value) : 1 ≤ (normalizePage value).toNat := by
  unfold normalizePage
  dsimp only
  split
  · split
    · rename_i f _ h
      obtain ⟨hfinite, hone⟩ := Bool.and_eq_true_iff.1 h
      exact one_le_toUInt64 hfinite (of_decide_eq_true hone)
    · decide
  · decide

/-! ### Numbers of a window -/

namespace Sql

def SumFits (a b : UInt64) : Prop := a.toNat + b.toNat < UInt64.size

instance (a b : UInt64) : Decidable (SumFits a b) := inferInstanceAs (Decidable (_ < _))

theorem SumFits.toNat_add {a b : UInt64} (h : SumFits a b) :
    (a + b).toNat = a.toNat + b.toNat := by
  rw [UInt64.toNat_add]
  exact Nat.mod_eq_of_lt h

namespace Window
variable {page perPage rows : UInt64}

/-- Where the offset stands still, a page in front of the one asked for is told. -/
theorem currentPage_eq_iff (hsize : 0 < perPage.toNat) :
    (ofPage page perPage).currentPage = max page 1 ↔
      (page.toNat - 1) * perPage.toNat < UInt64.size := by
  have hmax : (max page 1).toNat = max page.toNat 1 := UInt64.toNat_max ..
  rw [← UInt64.toNat_inj, toNat_currentPage_eq hsize, hmax]
  by_cases hfits : (page.toNat - 1) * perPage.toNat < UInt64.size
  · rw [toNat_offset_ofPage hfits, Nat.mul_div_cancel _ hsize]
    omega
  · have hoffset : (ofPage page perPage).offset.toNat = UInt64.size - 1 := by
      rw [toNat_offset, min_eq_right (by omega)]
    have hlt : (UInt64.size - 1) / perPage.toNat < page.toNat - 1 := by
      refine Nat.div_lt_of_lt_mul ?_
      rw [Nat.mul_comm]
      have hword : 0 < UInt64.size := by decide
      omega
    rw [hoffset]
    omega

def PositionsFit (w : Window) (rows : UInt64) : Prop :=
  SumFits w.offset 1 ∧ SumFits (w.offset + 1) rows

theorem positionsFit_iff : (ofPage page perPage).PositionsFit rows ↔
    (page.toNat - 1) * perPage.toNat + 1 + rows.toNat < UInt64.size := by
  have hone : (1 : UInt64).toNat = 1 := rfl
  have hoffset := toNat_offset page perPage
  constructor
  · rintro ⟨hfirst, hlast⟩
    have hsum := hfirst.toNat_add
    rw [SumFits, hone] at hfirst
    rw [SumFits, hsum, hone] at hlast
    omega
  · intro h
    have hfirst : SumFits (ofPage page perPage).offset 1 := by
      rw [SumFits, hone]
      omega
    refine ⟨hfirst, ?_⟩
    rw [SumFits, hfirst.toNat_add, hone]
    omega

/-- The numbers of a page, and how far they are those of arithmetic without a limit. -/
structure Numbers (page perPage : UInt64) : Prop where
  offset : (ofPage page perPage).offset.toNat =
    min ((page.toNat - 1) * perPage.toNat) (UInt64.size - 1)
  current : (ofPage page perPage).currentPage.toNat =
    (ofPage page perPage).offset.toNat / perPage.toNat + 1
  asked : (ofPage page perPage).currentPage = max page 1 ↔
    (page.toNat - 1) * perPage.toNat < UInt64.size
  total : ∀ total : UInt64,
    ((ofPage page perPage).totalPages total).toNat = max 1 (total.toNat ⌈/⌉ perPage.toNat)
  fits : ∀ rows, (ofPage page perPage).PositionsFit rows ↔
    (page.toNat - 1) * perPage.toNat + 1 + rows.toNat < UInt64.size
  positions : ∀ rows, 0 < rows → (ofPage page perPage).PositionsFit rows → ∃ first last,
    (ofPage page perPage).first? rows = some first ∧ (ofPage page perPage).last? rows = some last ∧
    first.toNat = (page.toNat - 1) * perPage.toNat + 1 ∧
    last.toNat = (page.toNat - 1) * perPage.toNat + rows.toNat

theorem numbers (hsize : 0 < perPage.toNat) : Numbers page perPage where
  offset := toNat_offset page perPage
  current := toNat_currentPage_eq hsize
  asked := currentPage_eq_iff hsize
  total _ := toNat_totalPages (w := ofPage page perPage) hsize
  fits _ := positionsFit_iff
  positions rows hrows hfits := by
    have hword := positionsFit_iff.1 hfits
    have hoffset : (ofPage page perPage).offset.toNat = (page.toNat - 1) * perPage.toNat :=
      toNat_offset_ofPage (by omega)
    have hpositions := exists_positions (w := ofPage page perPage)
      (UInt64.lt_iff_toNat_lt.1 hrows) (by rwa [hoffset])
    rwa [hoffset] at hpositions

end Window
end Sql

theorem page_pageResult_eq_iff {m : Type → Type} (e : Executor m) {page perPage : UInt64}
    (hpage : 1 ≤ page.toNat) (hsize : 0 < perPage.toNat) (found : Page) :
    (pageResult e perPage page found).envelope.page = page ↔
      (page.toNat - 1) * perPage.toNat < UInt64.size := by
  have hmax : max page 1 = page := by
    rw [← UInt64.toNat_inj, UInt64.toNat_max]
    exact max_eq_left hpage
  change (Sql.Window.ofPage page perPage).currentPage = _ ↔ _
  rw [← Sql.Window.currentPage_eq_iff hsize, hmax]

/-- The number of pages is exact for every page and every number of rows. The page told is the one
asked for exactly as far as the number of rows in front of it fits a word, and the positions of its
rows are found exactly as far as the rows on it fit behind that. -/
theorem numbers_of_pages (page perPage : UInt64) (hsize : 0 < perPage) :
    Sql.Window.Numbers page perPage ∧
    ∀ {m : Type → Type} [Monad m] (p : PagePolicy) (e : Executor m) (limit : UInt64)
      (value : Value), 0 < limit → p.grant limit = perPage → normalizePage value = page →
      (p.result e (some limit) value = do
        let found ← e.paginate perPage page
        return pageResult e perPage page found) ∧
      ∀ found, (pageResult e perPage page found).envelope.page = page ↔
        (page.toNat - 1) * perPage.toNat < UInt64.size := by
  have hsize : 0 < perPage.toNat := UInt64.lt_iff_toNat_lt.1 hsize
  refine ⟨Sql.Window.numbers hsize, ?_⟩
  rintro m _ p e limit value hlimit rfl rfl
  exact ⟨p.result_some e hlimit value,
    page_pageResult_eq_iff e (one_le_normalizePage value) hsize⟩

/-- Page two of two rows each, which a text asks for. -/
theorem numbers_of_pages_two :
    (0 : UInt64) < 2 ∧ Sql.Window.Numbers 2 2 ∧ normalizePage (.str "2.7") = 2 ∧
    (PagePolicy.result {} (listExecutor threeRows) (some 2) (.str "2.7") = do
      let found ← (listExecutor threeRows).paginate 2 2
      return pageResult (listExecutor threeRows) 2 2 found) ∧
    ∀ found, (pageResult (listExecutor threeRows) 2 2 found).envelope.page = 2 := by
  have hpage : normalizePage (.str "2.7") = 2 := by decide +kernel
  obtain ⟨hnumbers, hresult⟩ := numbers_of_pages 2 2 (by decide)
  obtain ⟨hfound, htold⟩ :=
    hresult {} (listExecutor threeRows) 2 (.str "2.7") (by decide) rfl hpage
  exact ⟨by decide, hnumbers, hpage, hfound, fun found => (htold found).2 (by decide)⟩

/-- The last page of two rows each is told as another, and the position of a row on it is lost. -/
theorem currentPage_lastWord :
    (0 : UInt64) < 2 ∧ (1 : UInt64) ≤ 2 ∧
    (Sql.Window.ofPage 18446744073709551615 2).currentPage = 9223372036854775808 ∧
    (Sql.Window.ofPage 18446744073709551615 2).currentPage ≠ max 18446744073709551615 1 ∧
    ¬ Sql.SumFits (Sql.Window.ofPage 18446744073709551615 2).offset 1 ∧
    (Sql.Window.ofPage 18446744073709551615 2).first? 1 = some 0 ∧
    normalizePage (.num (.int 18446744073709551615)) = 18446744073709551615 ∧
    ∀ found, (pageResult (listExecutor threeRows) 2 18446744073709551615 found).envelope.page =
      9223372036854775808 := by
  have hcurrent :
      (Sql.Window.ofPage 18446744073709551615 2).currentPage = 9223372036854775808 := by decide
  exact ⟨by decide, by decide, hcurrent, by decide, by decide, by decide, by decide +kernel,
    fun _ => hcurrent⟩

end RelationalQuery
