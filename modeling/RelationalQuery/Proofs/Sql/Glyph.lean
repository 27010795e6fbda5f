import Mathlib.Data.List.Chain
import RelationalQuery.Sql.Fragment

/-! Text read with the standard quoting: a run between two quotes is one name or one literal,
whatever it holds, and a quote written twice inside it is a quote. -/
namespace RelationalQuery.Sql

/-- A character outside quotes, or a whole run with the quote that encloses it. -/
inductive Glyph where
  | bare (c : Char)
  | quoted (quote : Char) (cs : List Char)
deriving DecidableEq

def isQuote (c : Char) : Bool := c = '"' || c = '\''

/-- Reads on, outside quotes or inside a run of which some characters are read. A run that does
not end cannot be read. -/
def readFrom : Option (Char × List Char) → List Char → Option (List Glyph)
  | none, [] => some []
  | none, c :: cs =>
    if isQuote c then readFrom (some (c, [])) cs else (readFrom none cs).map (.bare c :: ·)
  | some _, [] => none
  | some (quote, done), c :: cs =>
    if c = quote then
      match cs with
      | [] => some [.quoted quote done]
      | d :: rest =>
        if d = quote then readFrom (some (quote, done ++ [quote])) rest
        else (readFrom none (d :: rest)).map (.quoted quote done :: ·)
    else readFrom (some (quote, done ++ [c])) cs

def readGlyphs (s : String) : Option (List Glyph) := readFrom none s.toList

namespace Glyph

def print : Glyph → List Char
  | .bare c => [c]
  | .quoted quote cs => quote :: doubled quote cs ++ [quote]

def isBare : Glyph → Bool
  | .bare _ => true
  | .quoted .. => false

def Proper : Glyph → Prop
  | .bare c => isQuote c = false
  | .quoted quote _ => isQuote quote = true

end Glyph

def printAll (gs : List Glyph) : List Char := gs.flatMap Glyph.print

@[simp] theorem printAll_nil : printAll [] = [] := rfl

@[simp] theorem printAll_append (gs hs : List Glyph) :
    printAll (gs ++ hs) = printAll gs ++ printAll hs := by
  simp [printAll]

def bare (s : String) : List Glyph := s.toList.map .bare

@[simp] theorem printAll_bare (s : String) : printAll (bare s) = s.toList := by
  simp [printAll, bare, List.flatMap_map, Glyph.print]

/-! ### Reading what is printed -/

/-- Glyphs that can be told apart when printed: no two runs touch. -/
structure Legible (gs : List Glyph) : Prop where
  proper : ∀ g ∈ gs, g.Proper
  apart : gs.IsChain fun g h => g.isBare ∨ h.isBare

theorem readFrom_inside {quote c : Char} (hc : c ≠ quote) (done cs : List Char) :
    readFrom (some (quote, done)) (c :: cs) = readFrom (some (quote, done ++ [c])) cs := by
  cases cs with
  | nil => simp [readFrom, hc]
  | cons d rest => simp [readFrom, hc]

theorem readFrom_doubled {quote : Char} (cs done rest : List Char)
    (h : ∀ c ∈ rest.head?, c ≠ quote) :
    readFrom (some (quote, done)) (doubled quote cs ++ quote :: rest) =
      (readFrom none rest).map (.quoted quote (done ++ cs) :: ·) := by
  -- What has been read of the run grows, so it is kept general.
  induction cs generalizing done with
  | nil =>
    cases rest with
    | nil => simp [doubled, readFrom]
    | cons d rest =>
      have hd : d ≠ quote := h d rfl
      simp [doubled, readFrom, hd]
  | cons c cs ih =>
    by_cases hc : c = quote
    · subst hc
      simpa [doubled, readFrom] using ih (done ++ [c])
    · simpa [doubled, readFrom_inside hc, hc] using ih (done ++ [c])

theorem readFrom_printAll {gs : List Glyph} (h : Legible gs) :
    readFrom none (printAll gs) = some gs := by
  induction gs with
  | nil => rfl
  | cons g gs ih =>
    have hg : g.Proper := h.proper g (by simp)
    have ih := ih ⟨fun g hg => h.proper g (by simp [hg]), h.apart.tail⟩
    cases g with
    | bare c =>
      have hc : isQuote c = false := hg
      simp [printAll, Glyph.print, readFrom, hc] at ih ⊢
      exact ih
    | quoted quote cs =>
      have hq : isQuote quote = true := hg
      -- Runs do not touch, so the closing quote is not taken for a doubled one.
      have hrest : ∀ c ∈ (printAll gs).head?, c ≠ quote := by
        cases gs with
        | nil => simp [printAll]
        | cons g' gs =>
          have hbare : g'.isBare := by
            simpa [Glyph.isBare] using (List.isChain_cons_cons.1 h.apart).1
          cases g' with
          | bare c =>
            have hc : isQuote c = false := h.proper (.bare c) (by simp)
            simp only [printAll, List.flatMap_cons, Glyph.print, List.cons_append,
              List.nil_append, List.head?_cons, Option.mem_def, Option.some.injEq, forall_eq']
            rintro rfl
            simp [hc] at hq
          | quoted _ _ => cases hbare
      have hr := readFrom_doubled cs [] (printAll gs) hrest
      simp only [List.nil_append, ih, Option.map_some] at hr
      simpa [printAll, Glyph.print, readFrom, hq] using hr

/-- What is printed can be read back. -/
theorem readGlyphs_of_printAll {gs : List Glyph} {s : String} (h : Legible gs)
    (hs : printAll gs = s.toList) : readGlyphs s = some gs := by
  unfold readGlyphs
  rw [← hs, readFrom_printAll h]

/-! ### Nothing is lost -/

def pending : Option (Char × List Char) → List Char
  | none => []
  | some (quote, done) => quote :: doubled quote done

theorem doubled_concat (quote c : Char) (cs : List Char) :
    doubled quote (cs ++ [c]) = doubled quote cs ++ if c = quote then [c, c] else [c] := by
  simp [doubled]

theorem printAll_of_readFrom {state : Option (Char × List Char)} {cs : List Char}
    {gs : List Glyph} (h : readFrom state cs = some gs) : printAll gs = pending state ++ cs := by
  -- The glyphs still to come begin with the open run, of which a part has been read.
  fun_induction readFrom state cs generalizing gs with
  | case1 =>
    obtain rfl := Option.some.inj h
    rfl
  | case2 c cs hc ih => exact ih h
  | case3 c cs hc ih =>
    obtain ⟨gs, hgs, rfl⟩ := Option.map_eq_some_iff.1 h
    simpa [printAll, Glyph.print, pending] using ih hgs
  | case4 => cases h
  | case5 done quote =>
    obtain rfl := Option.some.inj h
    simp [printAll, Glyph.print, pending]
  | case6 done quote rest ih => simpa [pending, doubled_concat] using ih h
  | case7 done quote d rest hd ih =>
    obtain ⟨gs, hgs, rfl⟩ := Option.map_eq_some_iff.1 h
    simpa [printAll, Glyph.print, pending] using ih hgs
  | case8 quote done c cs hc ih => simpa [pending, doubled_concat, hc] using ih h

theorem printAll_of_readGlyphs {s : String} {gs : List Glyph} (h : readGlyphs s = some gs) :
    printAll gs = s.toList :=
  printAll_of_readFrom h

/-! ### Legible sequences -/

theorem Legible.nil : Legible [] := ⟨by simp, .nil⟩

/-- What starts outside quotes may follow anything. -/
theorem Legible.append {gs hs : List Glyph} (hg : Legible gs) (hh : Legible hs)
    (hstart : ∀ h ∈ hs.head?, h.isBare) : Legible (gs ++ hs) where
  proper g hm := by
    rcases List.mem_append.1 hm with hm | hm
    · exact hg.proper g hm
    · exact hh.proper g hm
  apart := by
    rw [List.isChain_append]
    exact ⟨hg.apart, hh.apart, fun _ _ h hm => .inr (hstart h hm)⟩

theorem legible_bare {s : String} (h : ∀ c ∈ s.toList, isQuote c = false) : Legible (bare s) where
  proper g hm := by
    obtain ⟨c, hc, rfl⟩ := List.mem_map.1 hm
    exact h c hc
  apart := by
    unfold bare
    induction s.toList with
    | nil => simp
    | cons c cs ih =>
      cases cs with
      | nil => simp
      | cons d cs => exact .cons_cons (.inl rfl) ih

end RelationalQuery.Sql
