import RelationalQuery.Building.Recorder
import RelationalQuery.Proofs.Json.Documents
import RelationalQuery.Proofs.Spec.Outcome
import RelationalQuery.Request

/-! The two ways from a text to a specification: mapped while it is read, or read to a value first
and mapped from there. They agree on a text that repeats no key within an object and carries no
other text, and so a request made from the text builds what its specification compiles to. -/
namespace RelationalQuery

open Json (Document Value)

/-! ### Blank texts -/

theorem not_isBlank_of_isDigit {c : Char} (h : Text.isDigit c) : ¬ Text.isBlank c := by
  simp only [Text.isDigit, Bool.and_eq_true, decide_eq_true_eq, Char.le_def,
    UInt32.le_iff_toNat_le] at h
  have hlow : 48 ≤ c.toNat := h.1
  have hhigh : c.toNat ≤ 57 := h.2
  simp only [Text.isBlank, Bool.or_eq_true, Bool.and_eq_true, decide_eq_true_eq, beq_iff_eq]
  omega

theorem Json.readLiteral_of_isBlank {cs : List Char} (h : cs.all Text.isBlank) :
    Json.readLiteral cs = none := by
  cases cs with
  | nil => rfl
  | cons c rest =>
    have hc : Text.isBlank c := by simp_all
    have hminus : c ≠ '-' := by
      rintro rfl
      exact absurd hc (by decide)
    have hdigit : ¬ Text.isDigit c := fun hd => not_isBlank_of_isDigit hd hc
    simp [Json.readLiteral, hminus, hdigit]

/-- A blank text is no document. -/
theorem Json.read_of_isBlankText {text : String} (h : Text.isBlankText text) :
    Json.read text = none := by
  have hblank : (Json.skipBlanks text.toList).all Text.isBlank := by
    rw [List.all_eq_true]
    intro c hc
    exact List.all_eq_true.1 h c ((List.dropWhile_suffix _).subset hc)
  rw [Json.read, Json.readDocument]
  -- no document but a number starts with any character, and that not with a blank
  split
  case h_7 =>
    rw [Json.readLiteral_of_isBlank hblank]
    rfl
  all_goals
    rename_i heq
    rw [heq] at hblank
    exact absurd hblank (by simp [Text.isBlank])

theorem Json.isBlankText_of_read {text : String} {d : Document} (hd : Json.read text = some d) :
    Text.isBlankText text = false := by
  rw [← Bool.not_eq_true]
  intro h
  rw [Json.read_of_isBlankText h] at hd
  cases hd

/-! ### The two ways -/

/-- A text is mapped like its document, whatever its faults are called. -/
theorem toOption_ofText {text : String} {d : Document} (hd : Json.read text = some d) :
    (Spec.ofText text).toOption = (readSpec .text d).toOption := by
  have hblank := Json.isBlankText_of_read hd
  simp only [Spec.ofText, hblank, hd, Bool.false_eq_true, if_false]
  cases readSpec .text d <;> rfl

theorem run_flatMap {σ α : Type} (b : Builder σ) (steps : α → List Step) (xs : List α) :
    b.run (xs.flatMap steps) = xs.forM fun x => b.run (steps x) := by
  induction xs with
  | nil => rfl
  | cons x xs ih =>
    rw [List.flatMap_cons, b.run_append, ih]
    rfl

/-- A request carries out what its specification compiles to. -/
theorem RequestOf.buildQueryWith_eq {σ : Type} (b : Builder σ) (r : RequestOf σ) :
    r.buildQueryWith b = b.run r.spec.steps := by
  rw [Spec.steps_eq, run_flatMap]
  rfl

/-- A request made from a text follows the specification of the text's value. -/
theorem RequestOf.toOption_ofText {σ : Type} {text : String} {v : Value}
    (hv : Json.readValue text = some v) (q : σ) :
    (RequestOf.ofText q text).toOption =
      (Spec.ofValue v).toOption.map fun spec => { query := q, raw := v, spec } := by
  obtain ⟨d, hd, _⟩ := Option.bind_eq_some_iff.1 hv
  have hblank := Json.isBlankText_of_read hd
  simp only [RequestOf.ofText, hblank, hv, Bool.false_eq_true, if_false, pure_bind]
  cases Spec.ofValue v <;> rfl

/-- The ways from a text to a specification agree, and so do those from a text to a query: a
request made from the text, carried out in full, does what the steps of the mapped specification
do, and there is no request if there is no specification. -/
theorem routes_agree {text : String} {d : Document} {v : Value} (hd : Json.read text = some d)
    (hv : d.value? = some v) (hnull : v ≠ .null) (hkeys : d.KeysOnce) (hmarks : d.Unmarked) :
    (Spec.ofText text).toOption = (Spec.ofValue v).toOption ∧
      ∀ {σ : Type} (b : Builder σ) (q : σ),
        ((RequestOf.ofText q text).toOption.map fun r => r.buildQueryWith b r.query) =
          (Spec.ofText text).toOption.map fun s => b.run s.steps q := by
  have hspec : (Spec.ofText text).toOption = (Spec.ofValue v).toOption := by
    rw [toOption_ofText hd, ofValue_of_ne_null hnull, Json.document_of_value? hv hkeys hmarks]
    exact toOption_readSpec .text .tree d
  refine ⟨hspec, fun b q => ?_⟩
  have hread : Json.readValue text = some v := by simp [Json.readValue, hd, hv]
  rw [RequestOf.toOption_ofText hread, hspec, Option.map_map]
  simp only [Function.comp_def, RequestOf.buildQueryWith_eq]

def nestedText : String :=
  "\x7b\"include\":[\x7b\"relation\":\"posts\",\"where\":\x7b\"field\":\"tags\"," ++
    "\"operator\":\"where_has\",\"value\":\x7b\"field\":\"name\"\x7d\x7d\x7d]\x7d"

def nestedValue : Value :=
  .obj [("include", .arr [.obj [("relation", .str "posts"),
    ("where", .obj [("field", .str "tags"), ("operator", .str "where_has"),
      ("value", .obj [("field", .str "name")])])]])]

def nestedRecorder : Recorder := { entity := { name := "User", table := "users" } }

theorem keysOnce_nestedValue : nestedValue.document.KeysOnce := by
  simp [nestedValue, Value.document, Value.fieldDocuments, Value.itemDocuments,
    Document.KeysOnce, Document.membersKeysOnce, Document.itemsKeysOnce]

theorem unmarked_nestedValue : nestedValue.document.Unmarked := by
  simp [nestedValue, Value.document, Value.fieldDocuments, Value.itemDocuments,
    Document.Unmarked, Document.membersUnmarked, Document.itemsUnmarked, Json.opensWithCarrier,
    Json.carrierKey]

theorem routes_agree_nestedText :
    Json.read nestedText = some nestedValue.document ∧
      nestedValue.document.value? = some nestedValue ∧ nestedValue ≠ .null ∧
      nestedValue.document.KeysOnce ∧ nestedValue.document.Unmarked ∧
      (Spec.ofText nestedText).toOption = (Spec.ofValue nestedValue).toOption ∧
      ((RequestOf.ofText nestedRecorder nestedText).toOption.map fun r =>
          r.buildQueryWith (Recorder.builder Recorder.permissive) r.query) =
        (Spec.ofText nestedText).toOption.map fun s =>
          (Recorder.builder Recorder.permissive).run s.steps nestedRecorder := by
  have hnull : nestedValue ≠ .null := by rintro ⟨⟩
  have h := @routes_agree nestedText nestedValue.document nestedValue rfl rfl hnull
    keysOnce_nestedValue unmarked_nestedValue
  exact ⟨rfl, rfl, hnull, keysOnce_nestedValue, unmarked_nestedValue, h.1, h.2 _ nestedRecorder⟩

/-- A text that carries another one, and the value of the carried text. -/
def carryingText : String :=
  "\x7b\"" ++ Json.carrierKey ++ "\":\"\x7b\\\"select\\\":[\\\"a\\\"]\x7d\"\x7d"

def carriedValue : Value := .obj [("select", .arr [.str "a"])]

/-- Read as written, such a text is an object of one unknown member; its value is that of the text
that it carries. -/
theorem routes_differ_carryingText :
    ∃ d, Json.read carryingText = some d ∧ d.KeysOnce ∧ d.value? = some carriedValue ∧
      carriedValue ≠ .null ∧
      Spec.ofText carryingText = .ok {} ∧ Spec.ofValue carriedValue = .ok { select := ["a"] } := by
  refine ⟨.carrier "\x7b\"select\":[\"a\"]\x7d" carriedValue.document, rfl, ?_, rfl, ?_, rfl, rfl⟩
  · simp [carriedValue, Value.document, Value.fieldDocuments, Value.itemDocuments,
      Document.KeysOnce, Document.membersKeysOnce, Document.itemsKeysOnce]
  · rintro ⟨⟩

end RelationalQuery
