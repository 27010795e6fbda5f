import Mathlib.Data.List.Forall2
import RelationalQuery.Sql.Literal

/-! Texts that are left outside quotes and hold no placeholder, and how values fill the
placeholders between such texts. -/
namespace RelationalQuery.Sql

open Json (Value)

/-- The state behind a text, unless the text has a placeholder. -/
def Quoting.pass : Quoting → List Char → Option Quoting
  | q, [] => some q
  | q, c :: cs => if q = none ∧ c = '?' then none else pass (q.after c) cs

theorem Quoting.pass_append (q : Quoting) (xs ys : List Char) :
    q.pass (xs ++ ys) = (q.pass xs).bind fun r => r.pass ys := by
  induction xs generalizing q with
  | nil => rfl
  | cons x xs ih =>
    simp only [List.cons_append, Quoting.pass]
    split
    · rfl
    · exact ih _

theorem segments_append_of_pass {q r : Quoting} {xs : List Char} (h : q.pass xs = some r)
    (ys : List Char) : segments q (xs ++ ys) = xs.foldr Segment.cons (segments r ys) := by
  induction xs generalizing q with
  | nil =>
    cases h
    rfl
  | cons x xs ih =>
    simp only [Quoting.pass] at h
    split at h
    · cases h
    · rename_i hx
      simp only [List.cons_append, segments, if_neg hx, List.foldr_cons, ih h]

def Closed (s : String) : Prop := Quoting.pass none s.toList = some none

instance (s : String) : Decidable (Closed s) := inferInstanceAs (Decidable (_ = _))

theorem Closed.append {s t : String} (hs : Closed s) (ht : Closed t) : Closed (s ++ t) := by
  simp only [Closed, String.toList_append, Quoting.pass_append] at *
  rw [hs]
  exact ht

theorem closed_ofList {cs : List Char} (h : Quoting.pass none cs = some none) :
    Closed (String.ofList cs) := by
  simpa [Closed] using h

/-! ### Filling placeholders -/

section
variable (w : Value → String)

/-- Segments with values written in the place of the placeholders, if there are as many values
as placeholders. -/
def fill : List Segment → List Value → Option (List Char)
  | [], [] => some []
  | [], _ :: _ => none
  | .text cs :: rest, values => (fill rest values).map (cs ++ ·)
  | .placeholder :: _, [] => none
  | .placeholder :: rest, v :: values => (fill rest values).map ((w v).toList ++ ·)

theorem fill_cons (c : Char) (xs : List Segment) (values : List Value) :
    fill w (Segment.cons c xs) values = (fill w xs values).map (c :: ·) := by
  match xs with
  | .text cs :: rest =>
    simp only [Segment.cons, fill, Option.map_map]
    rfl
  | [] => rfl
  | .placeholder :: rest => rfl

theorem fill_foldr (cs : List Char) (xs : List Segment) (values : List Value) :
    fill w (cs.foldr Segment.cons xs) values = (fill w xs values).map (cs ++ ·) := by
  induction cs with
  | nil => simp
  | cons c cs ih =>
    simp only [List.foldr_cons, fill_cons, ih, Option.map_map]
    rfl

/-- Whatever follows, the first fragment's own bindings fill its own placeholders, and what comes
out is the text of the second. -/
def Fills (f g : Fragment) : Prop :=
  ∀ cs values, fill w (segments none (f.sql.toList ++ cs)) (f.bindings ++ values) =
    (fill w (segments none cs) values).map (g.sql.toList ++ ·)

variable {w}

theorem Fills.append {f f' g g' : Fragment} (h : Fills w f f') (h' : Fills w g g') :
    Fills w (f ++ g) (f' ++ g') := by
  intro cs values
  calc
    fill w (segments none ((f ++ g).sql.toList ++ cs)) ((f ++ g).bindings ++ values)
        = fill w (segments none (f.sql.toList ++ (g.sql.toList ++ cs)))
            (f.bindings ++ (g.bindings ++ values)) := by simp
    _ = ((fill w (segments none cs) values).map (g'.sql.toList ++ ·)).map
          (f'.sql.toList ++ ·) := by rw [h, h']
    _ = (fill w (segments none cs) values).map ((f' ++ g').sql.toList ++ ·) := by
          simp only [Option.map_map, Fragment.sql_append, String.toList_append,
            List.append_assoc]
          rfl

theorem Fills.of_closed {s : String} (h : Closed s) : Fills w (s : Fragment) (s : Fragment) := by
  intro cs values
  rw [segments_append_of_pass h, fill_foldr]
  rfl

theorem Fills.append_text {f g : Fragment} {s : String} (hf : Fills w f g) (h : Closed s) :
    Fills w (f ++ (s : Fragment)) (g ++ (s : Fragment)) :=
  hf.append (.of_closed h)

theorem Fills.empty : Fills w Fragment.empty Fragment.empty := .of_closed rfl

theorem fills_placeholder (v : Value) : Fills w (Fragment.placeholder v) (w v : Fragment) := by
  intro cs values
  simp [Fragment.placeholder, segments, fill]

theorem Fills.join {sep : String} (hsep : Closed sep) {fs gs : List Fragment}
    (h : List.Forall₂ (Fills w) fs gs) :
    Fills w (Fragment.join sep fs) (Fragment.join sep gs) := by
  induction h with
  | nil => exact .empty
  | cons hfg hrest ih =>
    cases hrest with
    | nil => exact hfg
    | cons _ _ => exact (hfg.append (.of_closed hsep)).append ih

theorem Fills.fill_eq {f g : Fragment} (h : Fills w f g) :
    fill w (splitPlaceholders f.sql) f.bindings = some g.sql.toList := by
  have hf := h [] []
  simpa [splitPlaceholders, segments, fill] using hf

end

theorem inlineSegments_of_fill {xs : List Segment} {values : List Value} {cs : List Char}
    (h : fill literal xs values = some cs) :
    inlineSegments xs values = .ok (String.ofList cs) := by
  induction xs generalizing values cs with
  | nil =>
    cases values with
    | nil => cases h; rfl
    | cons v values => cases h
  | cons x xs ih =>
    cases x with
    | text piece =>
      obtain ⟨rest, hrest, rfl⟩ := Option.map_eq_some_iff.1 h
      simp [inlineSegments, ih hrest, bind, Except.bind, pure, Except.pure]
    | placeholder =>
      cases values with
      | nil => cases h
      | cons v values =>
        obtain ⟨rest, hrest, rfl⟩ := Option.map_eq_some_iff.1 h
        simp [inlineSegments, ih hrest, bind, Except.bind, pure, Except.pure]

theorem count_placeholder_of_fill {w : Value → String} {xs : List Segment} {values : List Value}
    {cs : List Char} (h : fill w xs values = some cs) :
    xs.count .placeholder = values.length := by
  induction xs generalizing values cs with
  | nil =>
    cases values with
    | nil => rfl
    | cons v values => cases h
  | cons x xs ih =>
    cases x with
    | text piece =>
      obtain ⟨rest, hrest, rfl⟩ := Option.map_eq_some_iff.1 h
      simp [ih hrest]
    | placeholder =>
      cases values with
      | nil => cases h
      | cons v values =>
        obtain ⟨rest, hrest, rfl⟩ := Option.map_eq_some_iff.1 h
        simp [ih hrest]

end RelationalQuery.Sql
