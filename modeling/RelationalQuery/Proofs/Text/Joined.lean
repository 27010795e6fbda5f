import RelationalQuery.Text.Split

/-! Texts joined by a separator, and cut again. Cutting undoes joining if no piece has the
separator in it. -/
namespace RelationalQuery.Text

variable {sep : Char}

theorem splitChars_intercalate {pieces : List (List Char)} (hne : pieces ≠ [])
    (h : ∀ piece ∈ pieces, sep ∉ piece) : splitChars sep ([sep].intercalate pieces) = pieces := by
  induction pieces with
  | nil => exact absurd rfl hne
  | cons piece rest ih =>
    have hpiece := h piece List.mem_cons_self
    cases rest with
    | nil => rw [List.intercalate_singleton, splitChars_of_not_mem hpiece]
    | cons next rest =>
      have hrest := ih (List.cons_ne_nil _ _) fun p hp => h p (List.mem_cons_of_mem _ hp)
      rw [List.intercalate_cons_cons, List.append_assoc, List.singleton_append,
        splitChars_append, splitChars_of_not_mem hpiece, hrest, List.singleton_append]

theorem cutChars_append {a : List Char} (h : sep ∉ a) (b : List Char) :
    cutChars sep (a ++ sep :: b) = some (a, b) := by
  induction a with
  | nil => simp [cutChars]
  | cons c a ih =>
    rw [List.mem_cons, not_or] at h
    rw [List.cons_append, cutChars, if_neg (Ne.symm h.1), ih h.2]
    rfl

theorem mem_intercalate {α : Type} {joiner : List α} {pieces : List (List α)} {c : α}
    (h : c ∈ joiner.intercalate pieces) : c ∈ joiner ∨ ∃ piece ∈ pieces, c ∈ piece := by
  induction pieces with
  | nil => simp at h
  | cons piece rest ih =>
    cases rest with
    | nil =>
      rw [List.intercalate_singleton] at h
      exact .inr ⟨piece, List.mem_cons_self, h⟩
    | cons next rest =>
      rw [List.intercalate_cons_cons, List.mem_append, List.mem_append] at h
      obtain (h | h) | h := h
      · exact .inr ⟨piece, List.mem_cons_self, h⟩
      · exact .inl h
      · obtain h | ⟨p, hp, hc⟩ := ih h
        · exact .inl h
        · exact .inr ⟨p, List.mem_cons_of_mem _ hp, hc⟩

theorem mem_of_mem_splitChars {cs piece : List Char} (h : piece ∈ splitChars sep cs) {c : Char}
    (hc : c ∈ piece) : c ∈ cs := by
  induction cs generalizing piece with
  | nil =>
    obtain rfl := List.mem_singleton.1 h
    exact hc
  | cons d cs ih =>
    unfold splitChars at h
    split at h
    · obtain rfl | h := List.mem_cons.1 h
      · exact absurd hc List.not_mem_nil
      · exact List.mem_cons_of_mem _ (ih h hc)
    · cases hs : splitChars sep cs with
      | nil => exact absurd hs (splitChars_ne_nil sep cs)
      | cons q qs =>
        simp only [hs, List.mem_cons] at h
        obtain rfl | h := h
        · obtain rfl | hc := List.mem_cons.1 hc
          · exact List.mem_cons_self
          · exact List.mem_cons_of_mem _ (ih (by rw [hs]; exact List.mem_cons_self) hc)
        · exact List.mem_cons_of_mem _ (ih (by rw [hs]; exact List.mem_cons_of_mem _ h) hc)

/-! ### Whole texts -/

variable {joiner : String}

theorem split_ne_nil (s : String) : split sep s ≠ [] := by
  simpa [split] using splitChars_ne_nil sep s.toList

theorem not_mem_of_mem_split {s piece : String} (h : piece ∈ split sep s) :
    sep ∉ piece.toList := by
  obtain ⟨cs, hcs, rfl⟩ := List.mem_map.1 h
  rw [String.toList_ofList]
  exact not_mem_of_mem_splitChars hcs

theorem mem_of_mem_split {s piece : String} (h : piece ∈ split sep s) {c : Char}
    (hc : c ∈ piece.toList) : c ∈ s.toList := by
  obtain ⟨cs, hcs, rfl⟩ := List.mem_map.1 h
  rw [String.toList_ofList] at hc
  exact mem_of_mem_splitChars hcs hc

theorem intercalate_split (hjoiner : joiner.toList = [sep]) (s : String) :
    joiner.intercalate (split sep s) = s := by
  rw [← String.toList_inj, String.toList_intercalate, hjoiner, split, List.map_map]
  simpa [Function.comp_def] using intercalate_splitChars sep s.toList

theorem split_intercalate (hjoiner : joiner.toList = [sep]) {pieces : List String}
    (hne : pieces ≠ []) (h : ∀ piece ∈ pieces, sep ∉ piece.toList) :
    split sep (joiner.intercalate pieces) = pieces := by
  rw [split, String.toList_intercalate, hjoiner, splitChars_intercalate]
  · simp [Function.comp_def]
  · simpa using hne
  · simpa using h

theorem split_append (hjoiner : joiner.toList = [sep]) (a b : String) :
    split sep (a ++ joiner ++ b) = split sep a ++ split sep b := by
  have hchars : (a ++ joiner ++ b).toList = a.toList ++ sep :: b.toList := by
    simp [hjoiner]
  rw [split, hchars, splitChars_append, List.map_append]
  rfl

theorem split_of_not_mem {s : String} (h : sep ∉ s.toList) : split sep s = [s] := by
  rw [split, splitChars_of_not_mem h, List.map_singleton, String.ofList_toList]

theorem cut_append (hjoiner : joiner.toList = [sep]) {a : String} (h : sep ∉ a.toList)
    (b : String) : cut sep (a ++ joiner ++ b) = some (a, b) := by
  have hchars : (a ++ joiner ++ b).toList = a.toList ++ sep :: b.toList := by
    simp [hjoiner]
  rw [cut, hchars, cutChars_append h]
  simp

theorem cut_of_not_mem {s : String} (h : sep ∉ s.toList) : cut sep s = none := by
  rw [cut, cutChars_eq_none_iff.2 h]
  rfl

end RelationalQuery.Text
