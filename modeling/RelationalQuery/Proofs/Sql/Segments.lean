import Mathlib.Data.List.Chain
import RelationalQuery.Sql.Fragment
import RelationalQuery.Sql.Placeholder

/-! Segments of a text. They are the text cut at its placeholders, which are the question marks
outside the quoted runs, and the segments of a text whose quotes are closed do not depend on what
follows it. -/
namespace RelationalQuery.Sql

/-! ### What segments say -/

def Segment.written : Segment → List Char
  | .text cs => cs
  | .placeholder => ['?']

def Segment.isText : Segment → Bool
  | .text _ => true
  | .placeholder => false

def PlaceholderAt (xs : List Segment) (i : Nat) : Prop :=
  ∃ before after, xs = before ++ .placeholder :: after ∧
    (before.flatMap Segment.written).length = i

/-- One list of segments behind another. Where a text meets a text they are one. -/
def seamed : List Segment → List Segment → List Segment
  | [.text cs], .text ds :: rest => .text (cs ++ ds) :: rest
  | x :: xs, ys => x :: seamed xs ys
  | [], ys => ys

section
variable {c : Char} {cs : List Char} {xs ys : List Segment} {i : Nat}

@[simp] theorem flatMap_written_cons :
    (Segment.cons c xs).flatMap Segment.written = c :: xs.flatMap Segment.written := by
  unfold Segment.cons
  split <;> simp [Segment.written]

theorem text_nil_not_mem_cons (h : .text [] ∉ xs) : .text [] ∉ Segment.cons c xs := by
  unfold Segment.cons
  split <;> simp_all

theorem isChain_cons (h : xs.IsChain fun x y => ¬(x.isText ∧ y.isText)) :
    (Segment.cons c xs).IsChain fun x y => ¬(x.isText ∧ y.isText) := by
  match xs, h with
  | [], _ => exact .singleton _
  | .placeholder :: _, h => exact .cons_cons (by simp [Segment.isText]) h
  | [.text _], _ => exact .singleton _
  | .text _ :: _ :: _, .cons_cons hxy h => exact .cons_cons hxy h

theorem seamed_cons : seamed (Segment.cons c xs) ys = Segment.cons c (seamed xs ys) := by
  match xs, ys with
  | [], [] => rfl
  | [], .text _ :: _ => rfl
  | [], .placeholder :: _ => rfl
  | .placeholder :: _, _ => simp [Segment.cons, seamed]
  | [.text _], [] => rfl
  | [.text _], .text _ :: _ => rfl
  | [.text _], .placeholder :: _ => rfl
  | .text _ :: _ :: _, _ => simp [Segment.cons, seamed]

/-! ### Placeholders by their index -/

@[simp] theorem not_placeholderAt_nil : ¬PlaceholderAt [] i := by
  rintro ⟨before, after, h, -⟩
  simp at h

theorem placeholderAt_placeholder_cons :
    PlaceholderAt (.placeholder :: xs) i ↔ i = 0 ∨ ∃ j, i = j + 1 ∧ PlaceholderAt xs j := by
  constructor
  · rintro ⟨before, after, h, rfl⟩
    cases before with
    | nil => exact .inl rfl
    | cons b before =>
      obtain ⟨rfl, rfl⟩ := List.cons.inj h
      exact .inr ⟨_, by simp [Segment.written, Nat.add_comm], before, after, rfl, rfl⟩
  · rintro (rfl | ⟨j, rfl, before, after, rfl, rfl⟩)
    · exact ⟨[], xs, rfl, rfl⟩
    · exact ⟨.placeholder :: before, after, rfl, by simp [Segment.written, Nat.add_comm]⟩

theorem placeholderAt_text_cons :
    PlaceholderAt (.text cs :: xs) i ↔ ∃ j, i = cs.length + j ∧ PlaceholderAt xs j := by
  constructor
  · rintro ⟨before, after, h, rfl⟩
    cases before with
    | nil => simp at h
    | cons b before =>
      obtain ⟨rfl, rfl⟩ := List.cons.inj h
      exact ⟨_, by simp [Segment.written], before, after, rfl, rfl⟩
  · rintro ⟨j, rfl, before, after, rfl, rfl⟩
    exact ⟨.text cs :: before, after, rfl, by simp [Segment.written]⟩

theorem placeholderAt_cons :
    PlaceholderAt (Segment.cons c xs) i ↔ ∃ j, i = j + 1 ∧ PlaceholderAt xs j := by
  unfold Segment.cons
  split
  · simp only [placeholderAt_text_cons, List.length_cons]
    constructor
    · rintro ⟨j, rfl, h⟩
      exact ⟨_, by omega, j, rfl, h⟩
    · rintro ⟨_, rfl, j, rfl, h⟩
      exact ⟨j, by omega, h⟩
  · simp only [placeholderAt_text_cons, List.length_singleton, Nat.add_comm]

end

/-! ### The scan -/

def Quoting.behind (q : Quoting) (cs : List Char) : Quoting := cs.foldl Quoting.after q

namespace Quoting

@[simp] theorem behind_nil (q : Quoting) : q.behind [] = q := rfl

@[simp] theorem behind_cons (q : Quoting) (c : Char) (cs : List Char) :
    q.behind (c :: cs) = (q.after c).behind cs := rfl

theorem behind_append (q : Quoting) (xs ys : List Char) :
    q.behind (xs ++ ys) = (q.behind xs).behind ys := List.foldl_append

end Quoting

section
variable (q : Quoting) (cs : List Char)

theorem segments_cons_of_mark : segments none ('?' :: cs) = .placeholder :: segments none cs := by
  simp [segments]

theorem segments_cons_of_ne {c : Char} (h : ¬(q = none ∧ c = '?')) :
    segments q (c :: cs) = Segment.cons c (segments (q.after c) cs) := by
  rw [segments, if_neg h]

theorem flatMap_written_segments : (segments q cs).flatMap Segment.written = cs := by
  induction cs generalizing q with
  | nil => rfl
  | cons c cs ih =>
    by_cases h : q = none ∧ c = '?'
    · obtain ⟨rfl, rfl⟩ := h
      rw [segments_cons_of_mark, List.flatMap_cons, ih]
      rfl
    · rw [segments_cons_of_ne q cs h, flatMap_written_cons, ih]

theorem text_nil_not_mem_segments : .text [] ∉ segments q cs := by
  induction cs generalizing q with
  | nil => simp [segments]
  | cons c cs ih =>
    by_cases h : q = none ∧ c = '?'
    · obtain ⟨rfl, rfl⟩ := h
      rw [segments_cons_of_mark]
      simpa using ih none
    · rw [segments_cons_of_ne q cs h]
      exact text_nil_not_mem_cons (ih _)

theorem isChain_segments : (segments q cs).IsChain fun x y => ¬(x.isText ∧ y.isText) := by
  induction cs generalizing q with
  | nil => exact .nil
  | cons c cs ih =>
    by_cases h : q = none ∧ c = '?'
    · obtain ⟨rfl, rfl⟩ := h
      rw [segments_cons_of_mark]
      exact (ih none).cons fun y _ => by simp [Segment.isText]
    · rw [segments_cons_of_ne q cs h]
      exact isChain_cons (ih _)

theorem segments_append (ds : List Char) :
    segments q (cs ++ ds) = seamed (segments q cs) (segments (q.behind cs) ds) := by
  induction cs generalizing q with
  | nil => rfl
  | cons c cs ih =>
    rw [List.cons_append, Quoting.behind_cons]
    by_cases h : q = none ∧ c = '?'
    · obtain ⟨rfl, rfl⟩ := h
      rw [segments_cons_of_mark, segments_cons_of_mark, ih none]
      simp [seamed, Quoting.after]
    · rw [segments_cons_of_ne q _ h, segments_cons_of_ne q _ h, ih, seamed_cons]

theorem placeholderAt_segments {i : Nat} :
    PlaceholderAt (segments q cs) i ↔ cs[i]? = some '?' ∧ q.behind (cs.take i) = none := by
  induction cs generalizing q i with
  | nil => simp [segments]
  | cons c cs ih =>
    by_cases h : q = none ∧ c = '?'
    · obtain ⟨rfl, rfl⟩ := h
      rw [segments_cons_of_mark, placeholderAt_placeholder_cons]
      cases i with
      | zero => simp
      | succ i => simp [ih, Quoting.after]
    · rw [segments_cons_of_ne q cs h, placeholderAt_cons]
      cases i with
      | zero => simpa [and_comm] using h
      | succ i => simp [ih]

end

/-! ### Quoted runs -/

def IsQuote (c : Char) : Prop := c = '\'' ∨ c = '"'

instance : DecidablePred IsQuote := fun _ => inferInstanceAs (Decidable (_ ∨ _))

/-- Texts whose quotes are all closed: characters outside quotes, and runs from a quote to the
next one of its kind, the quote being written twice inside. -/
inductive QuotesClosed : List Char → Prop where
  | nil : QuotesClosed []
  | bare {c : Char} {rest : List Char} : ¬IsQuote c → QuotesClosed rest → QuotesClosed (c :: rest)
  | run {quote : Char} {content rest : List Char} : IsQuote quote → QuotesClosed rest →
      QuotesClosed (quote :: doubled quote content ++ quote :: rest)

/-- A quoted run and what follows it. The quote that ends a run is not doubled; a run without one
extends to the end of the text. -/
inductive QuotedRun : List Char → List Char → Prop where
  | closed {quote : Char} {content rest : List Char} : IsQuote quote → rest.head? ≠ some quote →
      QuotedRun (quote :: doubled quote content ++ [quote]) rest
  | unterminated {quote : Char} {content : List Char} : IsQuote quote →
      QuotedRun (quote :: doubled quote content) []

def InRun (cs : List Char) (i : Nat) : Prop :=
  ∃ before run rest, cs = before ++ (run ++ rest) ∧ QuotesClosed before ∧ QuotedRun run rest ∧
    before.length ≤ i ∧ i < before.length + run.length

section
variable {quote : Char} {cs ds : List Char} {i : Nat}

theorem QuotesClosed.append (h : QuotesClosed cs) (hds : QuotesClosed ds) :
    QuotesClosed (cs ++ ds) := by
  induction h with
  | nil => exact hds
  | bare hc _ ih => exact .bare hc ih
  | run hquote _ ih => simpa using QuotesClosed.run hquote ih

theorem InRun.append_left (h : QuotesClosed ds) (hi : InRun cs i) :
    InRun (ds ++ cs) (ds.length + i) := by
  obtain ⟨before, run, rest, rfl, hbefore, hrun, hle, hlt⟩ := hi
  refine ⟨ds ++ before, run, rest, by simp, h.append hbefore, hrun, ?_, ?_⟩ <;>
    simp only [List.length_append] <;> omega

theorem doubled_cons (c : Char) : doubled quote (c :: cs) =
    (if c = quote then [c, c] else [c]) ++ doubled quote cs := rfl

theorem after_of_isQuote (hquote : IsQuote quote) :
    Quoting.after none quote = some quote := by
  have hafter : (quote = '\'' || quote = '"') = true := by simpa [IsQuote] using hquote
  exact if_pos hafter

theorem after_of_not_isQuote {c : Char} (h : ¬IsQuote c) : Quoting.after none c = none := by
  simpa [Quoting.after, IsQuote] using h

theorem after_self : Quoting.after (some quote) quote = none := if_pos rfl

theorem after_of_ne {c : Char} (h : c ≠ quote) : Quoting.after (some quote) c = some quote :=
  if_neg h

/-- A doubled quote closes the run and opens it again. -/
theorem behind_doubled (hquote : IsQuote quote) :
    Quoting.behind (some quote) (doubled quote cs) = some quote := by
  induction cs with
  | nil => rfl
  | cons c cs ih =>
    rw [doubled_cons, Quoting.behind_append]
    by_cases h : c = quote
    · subst h
      simp [after_self, after_of_isQuote hquote, ih]
    · simp [h, after_of_ne h, ih]

/-- The scan is inside wherever a run shows another character than its quote. -/
theorem behind_take_doubled (hquote : IsQuote quote) {c : Char}
    (h : (doubled quote cs)[i]? = some c) (hc : c ≠ quote) :
    Quoting.behind (some quote) ((doubled quote cs).take i) = some quote := by
  induction cs generalizing i with
  | nil => simp [doubled] at h
  | cons d cs ih =>
    rw [doubled_cons] at h ⊢
    by_cases hd : d = quote
    · subst hd
      -- Neither half of the doubled quote is the character in question.
      match i, h with
      | 0, h => exact absurd (by simpa using h) hc.symm
      | 1, h => exact absurd (by simpa using h) hc.symm
      | i + 2, h =>
        have hi : (doubled d cs)[i]? = some c := by simpa using h
        simpa [after_self, after_of_isQuote hquote] using ih hi
    · match i, h with
      | 0, _ => rfl
      | i + 1, h =>
        have hi : (doubled quote cs)[i]? = some c := by simpa [hd] using h
        simpa [hd, after_of_ne hd] using ih hi

theorem QuotesClosed.behind (h : QuotesClosed cs) : Quoting.behind none cs = none := by
  induction h with
  | nil => rfl
  | bare hc _ ih =>
    rw [Quoting.behind_cons, after_of_not_isQuote hc, ih]
  | run hquote _ ih =>
    rw [List.cons_append, Quoting.behind_cons, after_of_isQuote hquote, Quoting.behind_append,
      behind_doubled hquote, Quoting.behind_cons, after_self, ih]

/-- What a quote opens is a run, to the end of the text unless the run is closed. -/
theorem exists_run (quote : Char) (cs : List Char) :
    ∃ content, cs = doubled quote content ∨
      ∃ rest, cs = doubled quote content ++ quote :: rest ∧ rest.head? ≠ some quote := by
  match cs with
  | [] => exact ⟨[], .inl rfl⟩
  | c :: cs =>
    by_cases hc : c = quote
    · match cs with
      | [] => exact ⟨[], .inr ⟨[], by rw [hc]; rfl, by simp⟩⟩
      | d :: cs =>
        by_cases hd : d = quote
        -- Two quotes are one of the content, so the run goes on behind both.
        · obtain ⟨content, h | ⟨rest, h, hrest⟩⟩ := exists_run quote cs
          · exact ⟨quote :: content, .inl (by simp [doubled_cons, h, hc, hd])⟩
          · exact ⟨quote :: content, .inr ⟨rest, by simp [doubled_cons, h, hc, hd], hrest⟩⟩
        · exact ⟨[], .inr ⟨d :: cs, by rw [hc]; rfl, by simpa using hd⟩⟩
    · obtain ⟨content, h | ⟨rest, h, hrest⟩⟩ := exists_run quote cs
      · exact ⟨c :: content, .inl (by simp [doubled_cons, h, hc])⟩
      · exact ⟨c :: content, .inr ⟨rest, by simp [doubled_cons, h, hc], hrest⟩⟩

/-- A question mark in a run is reached from inside, whatever ends the run. -/
theorem behind_take_run (hquote : IsQuote quote) {ending : List Char} (hend : '?' ∉ ending)
    (h : (quote :: doubled quote cs ++ ending)[i]? = some '?') :
    Quoting.behind none ((quote :: doubled quote cs ++ ending).take i) = some quote := by
  have hmark : '?' ≠ quote := by
    rintro rfl
    exact absurd hquote (by decide)
  cases i with
  | zero => exact absurd (by simpa using h) hmark.symm
  | succ i =>
    rw [List.cons_append, List.take_succ_cons, Quoting.behind_cons, after_of_isQuote hquote]
    rw [List.cons_append, List.getElem?_cons_succ] at h
    by_cases hi : i < (doubled quote cs).length
    · rw [List.getElem?_append_left hi] at h
      rw [List.take_append_of_le_length hi.le, behind_take_doubled hquote h hmark]
    · rw [List.getElem?_append_right (by omega)] at h
      exact absurd (List.mem_of_getElem? h) hend

theorem QuotedRun.behind_take {run rest : List Char} (hrun : QuotedRun run rest)
    (h : run[i]? = some '?') : ∃ quote, Quoting.behind none (run.take i) = some quote := by
  cases hrun with
  | closed hquote =>
    refine ⟨_, behind_take_run hquote ?_ h⟩
    rw [List.mem_singleton]
    rintro rfl
    exact absurd hquote (by decide)
  | unterminated hquote =>
    rw [← List.append_nil (_ :: doubled _ _)] at h ⊢
    exact ⟨_, behind_take_run hquote List.not_mem_nil h⟩

theorem behind_ne_none_of_inRun (h : InRun cs i) (hmark : cs[i]? = some '?') :
    Quoting.behind none (cs.take i) ≠ none := by
  obtain ⟨before, run, rest, rfl, hbefore, hrun, hle, hlt⟩ := h
  obtain ⟨j, rfl⟩ := Nat.exists_eq_add_of_le hle
  have hj : j < run.length := by omega
  rw [List.getElem?_append_right hle, Nat.add_sub_cancel_left,
    List.getElem?_append_left hj] at hmark
  obtain ⟨quote, hquote⟩ := hrun.behind_take hmark
  rw [List.take_length_add_append, List.take_append_of_le_length hj.le, Quoting.behind_append,
    hbefore.behind, hquote]
  exact Option.some_ne_none quote

/-- What the scan reaches from inside lies in a run: in the first one, or behind it. -/
theorem inRun_of_behind_ne_none (cs : List Char) (i : Nat) (hi : i < cs.length)
    (h : Quoting.behind none (cs.take i) ≠ none) : InRun cs i := by
  match cs, i with
  | _ :: _, 0 => exact absurd rfl h
  | c :: cs, i + 1 =>
    by_cases hc : IsQuote c
    · obtain ⟨content, rfl | ⟨rest, rfl, hrest⟩⟩ := exists_run c cs
      · have hrun : QuotedRun (c :: doubled c content) [] := .unterminated hc
        exact ⟨[], _, [], by simp, .nil, hrun, Nat.zero_le _, by simpa using hi⟩
      · have hrun : QuotedRun (c :: doubled c content ++ [c]) rest := .closed hc hrest
        have hclosed : QuotesClosed (c :: doubled c content ++ [c]) := .run hc .nil
        have hsplit : c :: (doubled c content ++ c :: rest) =
            (c :: doubled c content ++ [c]) ++ rest := by simp
        rw [hsplit] at hi h ⊢
        by_cases hin : i + 1 < (c :: doubled c content ++ [c]).length
        · exact ⟨[], _, rest, rfl, .nil, hrun, Nat.zero_le _, by simpa using hin⟩
        · obtain ⟨j, hj⟩ := Nat.exists_eq_add_of_le (Nat.le_of_not_lt hin)
          have hj' : j < rest.length := by
            simp only [List.length_append] at hi hj
            omega
          rw [hj, List.take_length_add_append, Quoting.behind_append, hclosed.behind] at h
          rw [hj]
          exact (inRun_of_behind_ne_none rest j hj' h).append_left hclosed
    · rw [List.take_succ_cons, Quoting.behind_cons, after_of_not_isQuote hc] at h
      have hrest := inRun_of_behind_ne_none cs i (Nat.lt_of_succ_lt_succ hi) h
      have hbare : QuotesClosed [c] := .bare hc .nil
      rw [Nat.add_comm]
      exact hrest.append_left hbare
termination_by cs.length

end

/-! ### Exact segments -/

/-- The segments of a text give the text back, with a question mark for each placeholder. No text
among them is empty and no two are neighbours. The placeholders are the question marks that lie in
no quoted run, and behind a text whose quotes are closed the segments of what follows go on. -/
theorem splitPlaceholders_exact (text : String) :
    (splitPlaceholders text).flatMap Segment.written = text.toList ∧
    .text [] ∉ splitPlaceholders text ∧
    ((splitPlaceholders text).IsChain fun x y => ¬(x.isText ∧ y.isText)) ∧
    (∀ i, PlaceholderAt (splitPlaceholders text) i ↔
      text.toList[i]? = some '?' ∧ ¬InRun text.toList i) ∧
    (QuotesClosed text.toList → ∀ rest : String,
      splitPlaceholders (text ++ rest) =
        seamed (splitPlaceholders text) (splitPlaceholders rest)) := by
  refine ⟨flatMap_written_segments none _, text_nil_not_mem_segments none _,
    isChain_segments none _, ?_, ?_⟩
  · intro i
    rw [splitPlaceholders, placeholderAt_segments, and_congr_right_iff]
    intro hmark
    constructor
    · intro hnone hrun
      exact behind_ne_none_of_inRun hrun hmark hnone
    · intro hrun
      by_contra hbehind
      exact hrun (inRun_of_behind_ne_none _ _ (List.getElem?_eq_some_iff.1 hmark).1 hbehind)
  · intro hclosed rest
    rw [splitPlaceholders, String.toList_append, segments_append, hclosed.behind]
    rfl

/-- The question mark in the literal stays, that behind it does not, and neither depends on what
follows; the two texts between the placeholders become one. -/
theorem splitPlaceholders_literal :
    QuotesClosed "'it''s?' = ? or ".toList ∧
    splitPlaceholders ("'it''s?' = ? or " ++ "\"why?\" = ?") =
      seamed (splitPlaceholders "'it''s?' = ? or ") (splitPlaceholders "\"why?\" = ?") ∧
    splitPlaceholders ("'it''s?' = ? or " ++ "\"why?\" = ?") =
      [.text "'it''s?' = ".toList, .placeholder, .text " or \"why?\" = ".toList,
        .placeholder] := by
  have hliteral : QuotesClosed "'it''s?' = ? or ".toList := by
    have hrest : QuotesClosed " = ? or ".toList := by
      repeat' constructor
      all_goals decide
    exact @QuotesClosed.run '\'' "it's?".toList _ (.inl rfl) hrest
  exact ⟨hliteral, (splitPlaceholders_exact _).2.2.2.2 hliteral _, by decide⟩

end RelationalQuery.Sql
