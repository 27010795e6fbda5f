import RelationalQuery.Proofs.Sql.Glyph
import RelationalQuery.Sql.Builder

/-! The language of the texts that are sent to a server. Its words are fixed; whatever is not
fixed stands in a quoted name, in a quoted literal or is a number. -/
namespace RelationalQuery.Sql

/-! ### Names, literals and lists -/

inductive IsPart : List Glyph → Prop where
  | quoted (cs : List Char) : IsPart [.quoted '"' cs]
  | star : IsPart (bare "*")

inductive IsName : List Glyph → Prop where
  | part {p : List Glyph} : IsPart p → IsName p
  | dot {p n : List Glyph} : IsPart p → IsName n → IsName (p ++ bare "." ++ n)

inductive IsLiteral : List Glyph → Prop where
  | null : IsLiteral (bare "NULL")
  | quoted (cs : List Char) : IsLiteral [.quoted '\'' cs]

inductive IsNumber : List Glyph → Prop where
  | digits {ds : List Char} : ds ≠ [] → (∀ d ∈ ds, d.isDigit) → IsNumber (ds.map .bare)

inductive Listed (item : List Glyph → Prop) : List Glyph → Prop where
  | one {g : List Glyph} : item g → Listed item g
  | cons {g rest : List Glyph} : item g → Listed item rest → Listed item (g ++ bare ", " ++ rest)

inductive Perhaps (item : List Glyph → Prop) : List Glyph → Prop where
  | none : Perhaps item []
  | some {g : List Glyph} : item g → Perhaps item g

/-! ### Conditions -/

inductive IsSource : List Glyph → Prop where
  | table {n : List Glyph} : IsName n → IsSource n
  | renamed {n n' : List Glyph} : IsName n → IsName n' → IsSource (n ++ bare " AS " ++ n')

inductive IsLinked : String → List Glyph → Prop where
  | mk {yields : String} {s n n' : List Glyph} :
    yields ∈ ["*", "count(*)"] → IsSource s → IsName n → IsName n' →
      IsLinked yields
        (bare ("SELECT " ++ yields ++ " FROM ") ++ s ++ bare " WHERE " ++ n ++ bare " = " ++ n')

mutual

inductive IsCondition : List Glyph → Prop where
  | compare {n v : List Glyph} {operator : String} :
    IsName n → operator ∈ comparisonOperators → IsLiteral v →
      IsCondition (n ++ bare (" " ++ operator ++ " ") ++ v)
  | oneOf {n vs : List Glyph} {keyword : String} :
    IsName n → keyword ∈ [" IN (", " NOT IN ("] → Listed IsLiteral vs →
      IsCondition (n ++ bare keyword ++ vs ++ bare ")")
  | constant {s : String} : s ∈ ["0 = 1", "1 = 1"] → IsCondition (bare s)
  | between {n low high : List Glyph} {keyword : String} :
    IsName n → keyword ∈ [" BETWEEN ", " NOT BETWEEN "] → IsLiteral low → IsLiteral high →
      IsCondition (n ++ bare keyword ++ low ++ bare " AND " ++ high)
  | isNull {n : List Glyph} {keyword : String} :
    IsName n → keyword ∈ [" IS NULL", " IS NOT NULL"] → IsCondition (n ++ bare keyword)
  | cast {n v : List Glyph} {keyword : String} :
    IsName n → keyword ∈ ["::date = ", "::time = "] → IsLiteral v →
      IsCondition (n ++ bare keyword ++ v)
  | extract {n v : List Glyph} {part : String} :
    IsName n → part ∈ ["day", "month", "year"] → IsLiteral v →
      IsCondition (bare ("extract(" ++ part ++ " from ") ++ n ++ bare ") = " ++ v)
  | exists {s : List Glyph} {keyword : String} :
    IsSubquery "*" s → keyword ∈ ["EXISTS (", "NOT EXISTS ("] →
      IsCondition (bare keyword ++ s ++ bare ")")
  | count {s v : List Glyph} {operator : String} :
    IsSubquery "count(*)" s → operator ∈ comparisonOperators → IsLiteral v →
      IsCondition (bare "(" ++ s ++ bare (") " ++ operator ++ " ") ++ v)
  | notCount {s v : List Glyph} {operator : String} :
    IsSubquery "count(*)" s → operator ∈ comparisonOperators → IsLiteral v →
      IsCondition (bare "NOT ((" ++ s ++ bare (") " ++ operator ++ " ") ++ v ++ bare ")")
  | group {cs : List Glyph} : IsClauses cs → IsCondition (bare "(" ++ cs ++ bare ")")

inductive IsClauses : List Glyph → Prop where
  | one {c : List Glyph} : IsCondition c → IsClauses c
  | cons {c rest : List Glyph} {keyword : String} :
    IsCondition c → keyword ∈ [" AND ", " OR "] → IsClauses rest →
      IsClauses (c ++ bare keyword ++ rest)

inductive IsSubquery : String → List Glyph → Prop where
  | all {yields : String} {s : List Glyph} : IsLinked yields s → IsSubquery yields s
  | constrained {yields : String} {s cs : List Glyph} :
    IsLinked yields s → IsClauses cs → IsSubquery yields (s ++ bare " AND (" ++ cs ++ bare ")")

end

/-! ### Sentences -/

inductive IsColumn : List Glyph → Prop where
  | name {n : List Glyph} : IsName n → IsColumn n
  | count {s n : List Glyph} : IsSubquery "count(*)" s → IsName n →
    IsColumn (bare "(" ++ s ++ bare ") AS " ++ n)

inductive IsWhere : List Glyph → Prop where
  | mk {cs : List Glyph} : IsClauses cs → IsWhere (bare " WHERE " ++ cs)

inductive IsOrderItem : List Glyph → Prop where
  | mk {n : List Glyph} {keyword : String} :
    IsName n → keyword ∈ [" ASC", " DESC"] → IsOrderItem (n ++ bare keyword)

inductive IsOrder : List Glyph → Prop where
  | mk {items : List Glyph} : Listed IsOrderItem items → IsOrder (bare " ORDER BY " ++ items)

inductive IsWindow : List Glyph → Prop where
  | mk {limit offset : List Glyph} : IsNumber limit → IsNumber offset →
    IsWindow (bare " LIMIT " ++ limit ++ bare " OFFSET " ++ offset)

inductive IsSentence : List Glyph → Prop where
  | mk {columns table clauses order window : List Glyph} :
    Listed IsColumn columns → IsName table → Perhaps IsWhere clauses → Perhaps IsOrder order →
      Perhaps IsWindow window →
      IsSentence (bare "SELECT " ++ columns ++ bare " FROM " ++ table ++ clauses ++ order ++ window)

/-! ### Sentences are legible -/

abbrev Plain (s : String) : Prop := (!s.toList.isEmpty && s.toList.all (!isQuote ·)) = true

theorem Plain.ne_nil {s : String} (h : Plain s) : s.toList ≠ [] := by
  intro hs
  simp [Plain, hs] at h

theorem Plain.isQuote_eq {s : String} (h : Plain s) : ∀ c ∈ s.toList, isQuote c = false := by
  unfold Plain at h
  simp only [Bool.and_eq_true, List.all_eq_true, Bool.not_eq_true'] at h
  exact h.2

theorem Legible.append_bare {gs : List Glyph} {s : String} (h : Legible gs) (hs : Plain s) :
    Legible (gs ++ bare s) := by
  refine h.append (legible_bare hs.isQuote_eq) fun g hg => ?_
  obtain ⟨c, _, rfl⟩ := List.mem_map.1 (List.mem_of_head? hg)
  rfl

theorem Legible.bare_append {hs : List Glyph} {s : String} (h : Legible hs) (hp : Plain s) :
    Legible (bare s ++ hs) where
  proper g hm := by
    rcases List.mem_append.1 hm with hm | hm
    · exact (legible_bare hp.isQuote_eq).proper g hm
    · exact h.proper g hm
  apart := by
    rw [List.isChain_append]
    refine ⟨(legible_bare hp.isQuote_eq).apart, h.apart, fun g hg _ _ => .inl ?_⟩
    obtain ⟨c, _, rfl⟩ := List.mem_map.1 (List.mem_of_getLast? hg)
    rfl

/-- Between two runs there is a text without quotes. -/
theorem Legible.between {gs hs : List Glyph} {s : String} (hg : Legible gs) (hh : Legible hs)
    (hp : Plain s) : Legible (gs ++ bare s ++ hs) := by
  rw [List.append_assoc]
  refine hg.append (hh.bare_append hp) fun h hm => ?_
  cases hs : s.toList with
  | nil => exact absurd hs hp.ne_nil
  | cons c cs =>
    simp only [bare, hs, List.map_cons, List.cons_append, List.head?_cons, Option.mem_def,
      Option.some.injEq] at hm
    rw [← hm]
    rfl

theorem plain_operator {operator : String} (h : operator ∈ comparisonOperators) :
    Plain (" " ++ operator ++ " ") ∧ Plain (") " ++ operator ++ " ") := by
  have hall : ∀ operator ∈ comparisonOperators,
      Plain (" " ++ operator ++ " ") ∧ Plain (") " ++ operator ++ " ") := by decide
  exact hall operator h

theorem plain_of_mem {keywords : List String} {keyword : String} (h : keyword ∈ keywords)
    (hall : ∀ k ∈ keywords, Plain k) : Plain keyword := hall keyword h

theorem IsPart.legible {p : List Glyph} (h : IsPart p) : Legible p := by
  cases h with
  | quoted cs => exact ⟨by simp [Glyph.Proper, isQuote], by simp⟩
  | star => exact legible_bare (Plain.isQuote_eq (by decide))

theorem IsName.legible {n : List Glyph} (h : IsName n) : Legible n := by
  induction h with
  | part hp => exact hp.legible
  | dot hp _ ih => exact hp.legible.between ih (by decide)

theorem IsLiteral.legible {v : List Glyph} (h : IsLiteral v) : Legible v := by
  cases h with
  | null => exact legible_bare (Plain.isQuote_eq (by decide))
  | quoted cs => exact ⟨by simp [Glyph.Proper, isQuote], by simp⟩

theorem IsNumber.legible {n : List Glyph} (h : IsNumber n) : Legible n := by
  obtain ⟨hne, hds⟩ := h
  rename_i ds
  have hq : ∀ c ∈ (String.ofList ds).toList, isQuote c = false := by
    intro c hc
    have hd : c.isDigit := hds c (by simpa using hc)
    simp only [isQuote, Bool.or_eq_false_iff, decide_eq_false_iff_not]
    constructor <;> rintro rfl <;> exact absurd hd (by decide)
  simpa [bare] using legible_bare hq

theorem Listed.legible {item : List Glyph → Prop} (hitem : ∀ g, item g → Legible g)
    {gs : List Glyph} (h : Listed item gs) : Legible gs := by
  induction h with
  | one hg => exact hitem _ hg
  | cons hg _ ih => exact (hitem _ hg).between ih (by decide)

theorem IsSource.legible {s : List Glyph} (h : IsSource s) : Legible s := by
  cases h with
  | table hn => exact hn.legible
  | renamed hn hn' => exact hn.legible.between hn'.legible (by decide)

theorem IsLinked.legible {yields : String} {s : List Glyph} (h : IsLinked yields s) :
    Legible s := by
  obtain ⟨hy, hs, hn, hn'⟩ := h
  have hp : Plain ("SELECT " ++ yields ++ " FROM ") := by
    have hall : ∀ y ∈ ["*", "count(*)"], Plain ("SELECT " ++ y ++ " FROM ") := by decide
    exact hall yields hy
  exact (((hs.legible.bare_append hp).between hn.legible (by decide)).between hn'.legible
    (by decide))

mutual

theorem IsCondition.legible {c : List Glyph} (h : IsCondition c) : Legible c := by
  match h with
  | .compare hn hop hv => exact hn.legible.between hv.legible (plain_operator hop).1
  | .oneOf hn hk hvs =>
    have hlist := hvs.legible fun _ => IsLiteral.legible
    exact (hn.legible.between hlist (plain_of_mem hk (by decide))).append_bare (by decide)
  | .constant hs => exact legible_bare (plain_of_mem hs (by decide)).isQuote_eq
  | .between hn hk hlow hhigh =>
    exact (hn.legible.between hlow.legible (plain_of_mem hk (by decide))).between hhigh.legible
      (by decide)
  | .isNull hn hk => exact hn.legible.append_bare (plain_of_mem hk (by decide))
  | .cast hn hk hv => exact hn.legible.between hv.legible (plain_of_mem hk (by decide))
  | .extract hn hp hv =>
    have hall : ∀ p ∈ ["day", "month", "year"], Plain ("extract(" ++ p ++ " from ") := by decide
    exact (hn.legible.bare_append (hall _ hp)).between hv.legible (by decide)
  | .exists hs hk =>
    exact (hs.legible.bare_append (plain_of_mem hk (by decide))).append_bare (by decide)
  | .count hs hop hv =>
    exact (hs.legible.bare_append (by decide)).between hv.legible (plain_operator hop).2
  | .notCount hs hop hv =>
    have hcompared := (hs.legible.bare_append (s := "NOT ((") (by decide)).between hv.legible
      (plain_operator hop).2
    exact hcompared.append_bare (by decide)
  | .group hcs => exact (hcs.legible.bare_append (by decide)).append_bare (by decide)

theorem IsClauses.legible {cs : List Glyph} (h : IsClauses cs) : Legible cs := by
  match h with
  | .one hc => exact hc.legible
  | .cons hc hk hrest =>
    exact hc.legible.between hrest.legible (plain_of_mem hk (by decide))

theorem IsSubquery.legible {yields : String} {s : List Glyph} (h : IsSubquery yields s) :
    Legible s := by
  match h with
  | .all hs => exact hs.legible
  | .constrained hs hcs =>
    exact (hs.legible.between hcs.legible (by decide)).append_bare (by decide)

end

theorem IsColumn.legible {c : List Glyph} (h : IsColumn c) : Legible c := by
  cases h with
  | name hn => exact hn.legible
  | count hs hn => exact (hs.legible.bare_append (by decide)).between hn.legible (by decide)

/-- An optional part is set off by the text it starts with. -/
theorem Legible.append_perhaps {item : List Glyph → Prop} {gs part : List Glyph}
    (hg : Legible gs) (h : Perhaps item part)
    (hitem : ∀ g, item g → ∃ s rest, Plain s ∧ Legible rest ∧ g = bare s ++ rest) :
    Legible (gs ++ part) := by
  cases h with
  | none => simpa using hg
  | some hi =>
    obtain ⟨s, rest, hs, hrest, rfl⟩ := hitem _ hi
    rw [← List.append_assoc]
    exact hg.between hrest hs

theorem IsSentence.legible {g : List Glyph} (h : IsSentence g) : Legible g := by
  obtain ⟨hcolumns, htable, hclauses, horder, hwindow⟩ := h
  have hselect := (hcolumns.legible fun _ => IsColumn.legible).bare_append (s := "SELECT ")
    (by decide)
  have hfrom := hselect.between (s := " FROM ") htable.legible (by decide)
  have hwhere := hfrom.append_perhaps hclauses fun g hg => by
    obtain ⟨hcs⟩ := hg
    exact ⟨" WHERE ", _, by decide, hcs.legible, rfl⟩
  have hsorted := hwhere.append_perhaps horder fun g hg => by
    obtain ⟨hitems⟩ := hg
    refine ⟨" ORDER BY ", _, by decide, hitems.legible fun g hi => ?_, rfl⟩
    obtain ⟨hn, hk⟩ := hi
    exact hn.legible.append_bare (plain_of_mem hk (by decide))
  refine hsorted.append_perhaps hwindow fun g hg => ?_
  obtain ⟨hlimit, hoffset⟩ := hg
  rw [List.append_assoc, List.append_assoc]
  refine ⟨" LIMIT ", _, by decide, ?_, rfl⟩
  rw [← List.append_assoc]
  exact hlimit.legible.between hoffset.legible (by decide)

end RelationalQuery.Sql
