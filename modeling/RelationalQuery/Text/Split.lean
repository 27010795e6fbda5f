/-! Cutting text at a separator. -/
namespace RelationalQuery.Text

/-- The pieces between separators: one more than there are separators. -/
def splitChars (sep : Char) : List Char → List (List Char)
  | [] => [[]]
  | c :: cs =>
    if c = sep then [] :: splitChars sep cs
    else match splitChars sep cs with
      | [] => [[c]]
      | piece :: pieces => (c :: piece) :: pieces

theorem splitChars_ne_nil (sep : Char) (cs : List Char) : splitChars sep cs ≠ [] := by
  cases cs with
  | nil => simp [splitChars]
  | cons c cs =>
    unfold splitChars
    split
    · simp
    · split <;> simp

/-- Nothing is lost. -/
theorem intercalate_splitChars (sep : Char) (cs : List Char) :
    [sep].intercalate (splitChars sep cs) = cs := by
  induction cs with
  | nil => simp [splitChars]
  | cons c cs ih =>
    unfold splitChars
    have hne := splitChars_ne_nil sep cs
    split
    · rename_i h
      cases hs : splitChars sep cs with
      | nil => contradiction
      | cons p ps =>
        rw [hs] at ih
        simp [List.intercalate_cons_cons, h, ih]
    · cases hs : splitChars sep cs with
      | nil => contradiction
      | cons p ps =>
        rw [hs] at ih
        cases ps with
        | nil => simpa [List.intercalate_cons_cons] using ih
        | cons q qs => simpa [List.intercalate_cons_cons] using ih

theorem not_mem_of_mem_splitChars {sep : Char} {cs p : List Char}
    (h : p ∈ splitChars sep cs) : sep ∉ p := by
  induction cs generalizing p with
  | nil => simp_all [splitChars]
  | cons c cs ih =>
    unfold splitChars at h
    split at h
    · rcases List.mem_cons.1 h with rfl | h
      · simp
      · exact ih h
    · rename_i hc
      cases hs : splitChars sep cs with
      | nil => exact absurd hs (splitChars_ne_nil sep cs)
      | cons q qs =>
        simp only [hs, List.mem_cons] at h
        rcases h with rfl | h
        · have := ih (p := q) (by simp [hs])
          simp only [List.mem_cons, not_or]
          exact ⟨fun e => hc e.symm, this⟩
        · exact ih (by simp [hs, h])

theorem splitChars_of_not_mem {sep : Char} {cs : List Char} (h : sep ∉ cs) :
    splitChars sep cs = [cs] := by
  induction cs with
  | nil => rfl
  | cons c cs ih =>
    simp only [List.mem_cons, not_or] at h
    simp only [splitChars, if_neg (Ne.symm h.1), ih h.2]

theorem splitChars_append {sep : Char} (a b : List Char) :
    splitChars sep (a ++ sep :: b) = splitChars sep a ++ splitChars sep b := by
  induction a with
  | nil => simp [splitChars]
  | cons c a ih =>
    rw [List.cons_append, splitChars, splitChars, ih]
    split
    · rfl
    · cases hpieces : splitChars sep a with
      | nil => exact absurd hpieces (splitChars_ne_nil sep a)
      | cons piece pieces => rfl

def split (sep : Char) (s : String) : List String :=
  (splitChars sep s.toList).map String.ofList

def cutChars (sep : Char) : List Char → Option (List Char × List Char)
  | [] => none
  | c :: cs => if c = sep then some ([], cs) else (cutChars sep cs).map fun (a, b) => (c :: a, b)

def cut (sep : Char) (s : String) : Option (String × String) :=
  (cutChars sep s.toList).map fun (a, b) => (String.ofList a, String.ofList b)

theorem cutChars_eq_none_iff {sep : Char} {cs : List Char} :
    cutChars sep cs = none ↔ sep ∉ cs := by
  induction cs with
  | nil => simp [cutChars]
  | cons c cs ih =>
    unfold cutChars
    split
    · simp_all
    · rename_i hc
      simp only [Option.map_eq_none_iff, ih, List.mem_cons, not_or]
      exact ⟨fun h => ⟨fun e => hc e.symm, h⟩, And.right⟩

end RelationalQuery.Text
