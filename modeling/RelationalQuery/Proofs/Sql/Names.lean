import RelationalQuery.Proofs.Sql.Segments
import RelationalQuery.Proofs.Sql.Sentence
import RelationalQuery.Proofs.Text.Joined

/-! Quoted names read back. What quoting makes of a name is read as the parts of that name, and a
scan for placeholders finds none in it and is outside quotes behind it. -/
namespace RelationalQuery.Sql

/-! ### Reading -/

def Glyph.part? : Glyph → Option String
  | .bare c => if c = '*' then some "*" else none
  | .quoted quote cs => if quote = '"' then some (String.ofList cs) else none

def nameParts : List Glyph → Option (List String)
  | [] => none
  | [g] => g.part?.map ([·])
  | g :: point :: rest =>
    if point = .bare '.' then g.part?.bind fun part => (nameParts rest).map (part :: ·) else none

/-- The parts of a quoted name, if the text is one. -/
def readName (text : String) : Option (List String) := (readGlyphs text).bind nameParts

section
variable {g : Glyph} {n p : List Glyph} {part : String}

theorem nameParts_singleton (h : g.part? = some part) : nameParts [g] = some [part] := by
  rw [nameParts, h, Option.map_some]

theorem nameParts_dot (h : g.part? = some part) :
    nameParts ([g] ++ bare "." ++ n) = (nameParts n).map (part :: ·) := by
  have hglyphs : [g] ++ bare "." ++ n = g :: .bare '.' :: n := rfl
  rw [hglyphs, nameParts, if_pos rfl, h, Option.bind_some]

theorem IsPart.exists_part? (h : IsPart p) : ∃ g part, p = [g] ∧ g.part? = some part := by
  cases h with
  | quoted cs => exact ⟨.quoted '"' cs, String.ofList cs, rfl, rfl⟩
  | star => exact ⟨.bare '*', "*", rfl, rfl⟩

theorem isPart_of_part? (h : g.part? = some part) : IsPart [g] := by
  cases g with
  | bare c =>
    obtain ⟨rfl, -⟩ : c = '*' ∧ "*" = part := by simpa [Glyph.part?] using h
    exact .star
  | quoted quote cs =>
    obtain ⟨rfl, -⟩ : quote = '"' ∧ String.ofList cs = part := by simpa [Glyph.part?] using h
    exact .quoted cs

theorem IsName.exists_nameParts (h : IsName n) : ∃ parts, nameParts n = some parts := by
  induction h with
  | part hp =>
    obtain ⟨g, part, rfl, hg⟩ := hp.exists_part?
    exact ⟨[part], nameParts_singleton hg⟩
  | dot hp _ ih =>
    obtain ⟨g, part, rfl, hg⟩ := hp.exists_part?
    obtain ⟨parts, hparts⟩ := ih
    exact ⟨part :: parts, by rw [nameParts_dot hg, hparts, Option.map_some]⟩

theorem isName_of_nameParts {n : List Glyph} {parts : List String}
    (h : nameParts n = some parts) : IsName n := by
  match n with
  | [] => cases h
  | [g] =>
    obtain ⟨part, hg, -⟩ := Option.map_eq_some_iff.1 h
    exact .part (isPart_of_part? hg)
  | g :: point :: rest =>
    rw [nameParts] at h
    by_cases hpoint : point = .bare '.'
    · rw [if_pos hpoint] at h
      obtain ⟨part, hg, hrest⟩ := Option.bind_eq_some_iff.1 h
      obtain ⟨parts, hparts, -⟩ := Option.map_eq_some_iff.1 hrest
      rw [hpoint]
      exact .dot (isPart_of_part? hg) (isName_of_nameParts hparts)
    · rw [if_neg hpoint] at h
      cases h

theorem isSome_readName_iff {text : String} :
    (readName text).isSome ↔ ∃ n, IsName n ∧ printAll n = text.toList := by
  constructor
  · intro h
    obtain ⟨parts, hparts⟩ := Option.isSome_iff_exists.1 h
    obtain ⟨n, hread, hn⟩ := Option.bind_eq_some_iff.1 hparts
    exact ⟨n, isName_of_nameParts hn, printAll_of_readGlyphs hread⟩
  · rintro ⟨n, hn, htext⟩
    obtain ⟨parts, hparts⟩ := hn.exists_nameParts
    have hread : readName text = some parts := by
      rw [readName, readGlyphs_of_printAll hn.legible htext, Option.bind_some, hparts]
    exact Option.isSome_iff_exists.2 ⟨parts, hread⟩

end

/-! ### What quoting makes of a name -/

section
variable (name : String)

theorem exists_glyph_of_part (part : List Char) :
    ∃ g, partGlyphs part = [g] ∧ g.part? = some (String.ofList part) := by
  by_cases hstar : part = ['*']
  · exact ⟨.bare '*', if_pos hstar, by rw [hstar]; rfl⟩
  · exact ⟨.quoted '"' part, if_neg hstar, rfl⟩

theorem nameParts_nameGlyphs : nameParts (nameGlyphs name) = some (Text.split '.' name) := by
  unfold nameGlyphs Text.split
  -- Nothing is read as no parts, so that there is a part has to be kept for the rest as well.
  have hne := Text.splitChars_ne_nil '.' name.toList
  revert hne
  induction Text.splitChars '.' name.toList with
  | nil => exact fun hne => absurd rfl hne
  | cons part rest ih =>
    intro _
    obtain ⟨g, hglyphs, hg⟩ := exists_glyph_of_part part
    cases rest with
    | nil =>
      rw [List.map_singleton, List.intercalate_singleton, hglyphs, nameParts_singleton hg]
      rfl
    | cons next rest =>
      have hrest := ih (List.cons_ne_nil _ _)
      rw [List.map_cons] at hrest
      rw [List.map_cons, List.map_cons, List.intercalate_cons_cons, hglyphs, nameParts_dot hg,
        hrest]
      rfl

theorem readName_quoteIdentifier :
    readName (quoteIdentifier name) = some (Text.split '.' name) := by
  have hread : readGlyphs (quoteIdentifier name) = some (nameGlyphs name) :=
    readGlyphs_of_printAll (isName_nameGlyphs name).legible (printAll_nameGlyphs name)
  rw [readName, hread, Option.bind_some, nameParts_nameGlyphs]

end

theorem quoteIdentifier_injective : Function.Injective quoteIdentifier := by
  intro a b h
  have hparts : some (Text.split '.' a) = some (Text.split '.' b) := by
    rw [← readName_quoteIdentifier, ← readName_quoteIdentifier, h]
  calc
    a = ".".intercalate (Text.split '.' a) := (Text.intercalate_split rfl a).symm
    _ = ".".intercalate (Text.split '.' b) := by rw [Option.some.inj hparts]
    _ = b := Text.intercalate_split rfl b

/-! ### What a scan makes of it -/

theorem placeholder_mem_cons {c : Char} {xs : List Segment} :
    .placeholder ∈ Segment.cons c xs ↔ .placeholder ∈ xs := by
  unfold Segment.cons
  split <;> simp

theorem Quoting.pass_eq_some_iff {q r : Quoting} {cs : List Char} :
    q.pass cs = some r ↔ .placeholder ∉ segments q cs ∧ q.behind cs = r := by
  induction cs generalizing q with
  | nil => simp [Quoting.pass, segments]
  | cons c cs ih =>
    rw [Quoting.pass, Quoting.behind_cons]
    by_cases h : q = none ∧ c = '?'
    · obtain ⟨rfl, rfl⟩ := h
      simp [segments_cons_of_mark]
    · rw [if_neg h, segments_cons_of_ne q cs h, placeholder_mem_cons, ih]

/-! ### Exact quoting -/

/-- What can be read is the names of the grammar, and what quoting makes of a name is read as the
parts of it, so that no two names become one text. A scan for placeholders finds none in that text
and ends outside quotes. -/
theorem quoteIdentifier_exact :
    (∀ text, (readName text).isSome ↔ ∃ n, IsName n ∧ printAll n = text.toList) ∧
    (∀ name, readName (quoteIdentifier name) = some (Text.split '.' name)) ∧
    Function.Injective quoteIdentifier ∧
    ∀ name, .placeholder ∉ splitPlaceholders (quoteIdentifier name) ∧
      Quoting.behind none (quoteIdentifier name).toList = none := by
  refine ⟨fun text => isSome_readName_iff, readName_quoteIdentifier, quoteIdentifier_injective, ?_⟩
  intro name
  exact Quoting.pass_eq_some_iff.1 (closed_quoteIdentifier name)

/-- Quotes of both kinds, a question mark, an empty part, and stars, of which one stays bare. -/
example :
    quoteIdentifier "it's \"odd\"?..a*.*" = "\"it's \"\"odd\"\"?\".\"\".\"a*\".*" ∧
    readName "\"it's \"\"odd\"\"?\".\"\".\"a*\".*" = some ["it's \"odd\"?", "", "a*", "*"] := by
  cbv

end RelationalQuery.Sql
