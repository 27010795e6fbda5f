import Mathlib.Data.List.Nodup
import RelationalQuery.Proofs.Sql.Existence
import RelationalQuery.Proofs.Sql.Precedence

/-! What one row says of the condition that a relation has rows, and of the condition that it has
none. The second is the complement of the first, but for a polymorphic relation: each of its types
is asked about the rows of that type only, so a row of no type, or of one that the relation does
not know, fulfils neither condition. -/
namespace RelationalQuery

namespace Sql

open Json (Value)

/-- What is known of one row: the texts in its columns, nothing standing for null, which subqueries
yield rows for it, and which comparisons with the number of those rows hold. -/
structure Row where
  text : String → Option String
  yields : Subquery → Bool
  counts : Subquery → String → Value → Bool
  /-- Any other test of its columns. -/
  passes : Condition → Bool

mutual

def Row.holds (row : Row) : Condition → Bool
  | .compare field operator (.str s) =>
    if operator = "=" then row.text field = some s
    else row.passes (.compare field operator (.str s))
  | .oneOf _ [] negated => negated
  | .exists subquery negated => row.yields subquery != negated
  | .count subquery operator value negated => row.counts subquery operator value != negated
  | .group clauses => listValue (row.entries clauses)
  | c => row.passes c

def Row.entries (row : Row) : List Clause → List (Join × Bool)
  | [] => []
  | ⟨join, c⟩ :: rest => (join, row.holds c) :: row.entries rest

end

def Condition.negate : Condition → Condition
  | .exists subquery negated => .exists subquery !negated
  | .count subquery operator value negated => .count subquery operator value !negated
  | c => c

/-! ### Conditions on linked rows -/

namespace Query

theorem quantified_true (r : Query) (l : Link) (quantifier : Option (String × Value))
    (body : Building Query Unit) :
    quantified r l quantifier true body =
      (quantified r l quantifier false body).map Condition.negate := by
  cases quantifier with
  | none =>
    simp only [quantified]
    cases constrained .rows r l body <;> rfl
  | some quantifier =>
    simp only [quantified]
    cases constrained .count r l body <;> rfl

theorem holds_negate_of_quantified (row : Row) {r : Query} {l : Link}
    {quantifier : Option (String × Value)} {negated : Bool} {body : Building Query Unit}
    {c : Condition} (h : quantified r l quantifier negated body = .ok c) :
    row.holds c.negate = !row.holds c := by
  obtain ⟨t, _, ⟨_, rfl⟩ | ⟨operator, count, _, rfl⟩⟩ := quantified_eq_ok h
  · simp [Condition.negate, Row.holds]
  · simp [Condition.negate, Row.holds]

def typeCondition (q : Query) (idColumn : String) (quantifier : Option (String × Value))
    (negated : Bool) (body : Building Query Unit) (model : String) :
    Except QueryError Condition := do
  let r ← q.subquery model
  quantified r ⟨r.source.name, r.model.entity.primaryKey, q.source.name, idColumn⟩
    quantifier negated body

def ofType (column tag : String) (c : Condition) : Clause :=
  .or (.group [.and (.compare column "=" (.str tag)), .and c])

section
variable (q : Query) (typeColumn idColumn : String) (quantifier : Option (String × Value))
  (body : Building Query Unit)

theorem alternative_eq (negated : Bool) (tag model : String) :
    q.alternative typeColumn idColumn quantifier negated body tag model =
      (q.typeCondition idColumn quantifier negated body model).map
        (ofType (qualified q.source.name typeColumn) tag) := by
  unfold alternative typeCondition
  cases q.subquery model with
  | error e => rfl
  | ok r =>
    simp only [bind, Except.bind]
    cases quantified r _ quantifier negated body <;> rfl

theorem exists_typeCondition {negated : Bool} {tag model : String} {cl : Clause}
    (h : q.alternative typeColumn idColumn quantifier negated body tag model = .ok cl) :
    ∃ c, q.typeCondition idColumn quantifier negated body model = .ok c ∧
      cl = ofType (qualified q.source.name typeColumn) tag c := by
  rw [alternative_eq] at h
  obtain ⟨c, hc, rfl⟩ := Except.map_eq_ok.1 h
  exact ⟨c, hc, rfl⟩

theorem typeCondition_true (model : String) :
    q.typeCondition idColumn quantifier true body model =
      (q.typeCondition idColumn quantifier false body model).map Condition.negate := by
  unfold typeCondition
  cases q.subquery model with
  | error e => rfl
  | ok r => exact quantified_true r _ quantifier body

theorem holds_negate_of_typeCondition (row : Row) {negated : Bool} {model : String}
    {c : Condition} (h : q.typeCondition idColumn quantifier negated body model = .ok c) :
    row.holds c.negate = !row.holds c := by
  obtain ⟨r, _, h⟩ := Except.bind_eq_ok.1 h
  exact holds_negate_of_quantified row h

end

end Query

/-! ### The answers of a polymorphic relation -/

theorem listValue_of_or {entries : List (Join × Bool)} (h : ∀ e ∈ entries, e.1 = .or)
    (hne : entries ≠ []) : listValue entries = entries.any Prod.snd := by
  have hjoined : ∀ (sofar : Bool) (es : List (Join × Bool)), (∀ e ∈ es, e.1 = .or) →
      joinedValue sofar es = (sofar || es.any Prod.snd) := by
    intro sofar es hes
    induction es generalizing sofar with
    | nil => simp [joinedValue]
    | cons e es ih =>
      obtain ⟨join, b⟩ := e
      obtain rfl : join = .or := hes (join, b) (by simp)
      have hrest := ih b fun e he => hes e (by simp [he])
      simp [joinedValue, hrest]
  cases entries with
  | nil => exact absurd rfl hne
  | cons e entries =>
    have htail := hjoined e.2 entries fun e he => h e (by simp [he])
    simpa [listValue] using htail

section
variable (row : Row)

theorem Row.holds_ofType (column tag : String) (c : Condition) :
    row.holds (Query.ofType column tag c).condition = true ↔
      row.text column = some tag ∧ row.holds c = true := by
  simp [Query.ofType, Clause.or, Clause.and, Clause.condition, Row.holds, Row.entries, listValue,
    joinedValue]

theorem Row.entries_eq_map (clauses : List Clause) :
    row.entries clauses = clauses.map fun cl => (cl.join, row.holds cl.condition) := by
  induction clauses with
  | nil => rfl
  | cons cl rest ih =>
    obtain ⟨join, c⟩ := cl
    simp [Row.entries, ih, Clause.join, Clause.condition]

variable (q : Query) (typeColumn idColumn : String) (quantifier : Option (String × Value))
  (body : Building Query Unit)

/-- A polymorphic relation with the given types says whether the row has linked rows: one of the
types that the row's tag stands for does. -/
def Row.Answers (morphs : List (String × String)) (answer : Bool) : Prop :=
  ∃ tag model c, (tag, model) ∈ morphs ∧ row.text (qualified q.source.name typeColumn) = some tag ∧
    q.typeCondition idColumn quantifier false body model = .ok c ∧ row.holds c = answer

variable {morphs : List (String × String)} {alternatives : List Clause}

/-- Each alternative asks about the rows of its own type. -/
theorem Row.holds_alternatives {negated : Bool} (hne : morphs ≠ [])
    (h : List.Forall₂ (fun m cl => q.alternative typeColumn idColumn quantifier negated body
      m.1 m.2 = .ok cl) morphs alternatives) :
    row.holds (.group alternatives) = true ↔ ∃ tag model c, (tag, model) ∈ morphs ∧
      row.text (qualified q.source.name typeColumn) = some tag ∧
      q.typeCondition idColumn quantifier negated body model = .ok c ∧ row.holds c = true := by
  have hor : ∀ e ∈ row.entries alternatives, e.1 = .or := by
    rw [Row.entries_eq_map]
    intro e he
    obtain ⟨cl, hmem, rfl⟩ := List.mem_map.1 he
    obtain ⟨m, _, hm⟩ := exists_mem_of_forall₂ h hmem
    obtain ⟨c, _, rfl⟩ := q.exists_typeCondition _ _ _ _ hm
    rfl
  have hentries : row.entries alternatives ≠ [] := by
    rw [Row.entries_eq_map, ne_eq, List.map_eq_nil_iff]
    rintro rfl
    exact hne (List.forall₂_nil_right_iff.1 h)
  rw [Row.holds, listValue_of_or hor hentries, Row.entries_eq_map, List.any_map, List.any_eq_true]
  constructor
  · rintro ⟨cl, hmem, hholds⟩
    obtain ⟨m, hm, halternative⟩ := exists_mem_of_forall₂ h hmem
    obtain ⟨c, hc, rfl⟩ := q.exists_typeCondition _ _ _ _ halternative
    obtain ⟨htag, hholds⟩ := (row.holds_ofType _ _ c).1 hholds
    exact ⟨m.1, m.2, c, hm, htag, hc, hholds⟩
  · rintro ⟨tag, model, c, hm, htag, hc, hholds⟩
    obtain ⟨cl, hmem, halternative⟩ := exists_mem_of_forall₂ h.flip hm
    obtain ⟨d, hd, rfl⟩ := q.exists_typeCondition _ _ _ _ halternative
    obtain rfl : c = d := by simpa [hc] using hd
    exact ⟨_, hmem, (row.holds_ofType _ _ c).2 ⟨htag, hholds⟩⟩

theorem Row.holds_present_alternatives (hne : morphs ≠ [])
    (h : List.Forall₂ (fun m cl => q.alternative typeColumn idColumn quantifier false body
      m.1 m.2 = .ok cl) morphs alternatives) :
    row.holds (.group alternatives) = true ↔
      row.Answers q typeColumn idColumn quantifier body morphs true :=
  row.holds_alternatives q typeColumn idColumn quantifier body hne h

theorem Row.holds_absent_alternatives (hne : morphs ≠ [])
    (h : List.Forall₂ (fun m cl => q.alternative typeColumn idColumn quantifier true body
      m.1 m.2 = .ok cl) morphs alternatives) :
    row.holds (.group alternatives) = true ↔
      row.Answers q typeColumn idColumn quantifier body morphs false := by
  rw [row.holds_alternatives q typeColumn idColumn quantifier body hne h]
  constructor
  · rintro ⟨tag, model, c, hm, htag, hc, hholds⟩
    rw [Query.typeCondition_true] at hc
    obtain ⟨d, hd, rfl⟩ := Except.map_eq_ok.1 hc
    rw [q.holds_negate_of_typeCondition idColumn quantifier body row hd] at hholds
    exact ⟨tag, model, d, hm, htag, hd, by simpa using hholds⟩
  · rintro ⟨tag, model, d, hm, htag, hd, hholds⟩
    refine ⟨tag, model, d.negate, hm, htag, ?_, ?_⟩
    · rw [Query.typeCondition_true, hd]
      rfl
    · rw [q.holds_negate_of_typeCondition idColumn quantifier body row hd, hholds]
      rfl

end

/-! ### Presence and absence -/

structure Query.AsksTypes (q : Query) (name : String) (types : RelatedTypes)
    (typeColumn idColumn : String) (morphs : List (String × String)) : Prop where
  relation : ∃ relation, q.model.relation name = .ok relation ∧
    relation.kind = .morphTo typeColumn idColumn morphs
  any : types = .any
  ne_nil : morphs ≠ []

def Row.Decided (row : Row) (q : Query) (name : String) (types : RelatedTypes)
    (quantifier : Option (String × Value)) (body : Building Query Unit) : Prop :=
  ∀ typeColumn idColumn morphs, q.AsksTypes name types typeColumn idColumn morphs →
    ∃! answer, row.Answers q typeColumn idColumn quantifier body morphs answer

theorem existsUnique_bool_iff {answers : Bool → Prop} :
    (∃! answer, answers answer) ↔ (answers false ↔ ¬ answers true) := by
  by_cases ht : answers true
  · by_cases hf : answers false
    · simp [ExistsUnique, ht, hf]
    · simp [ExistsUnique, ht, hf]
  · by_cases hf : answers false
    · simp [ExistsUnique, ht, hf]
    · simp [ExistsUnique, ht, hf]

namespace Query
variable (q : Query) {name : String} {relation : Relation}

theorem existence_of_no_types {typeColumn idColumn : String}
    (hrelation : q.model.relation name = .ok relation)
    (hkind : relation.kind = .morphTo typeColumn idColumn []) (ex : Existence)
    (quantifier : Option (String × Value)) (body : Building Query Unit) :
    q.existence name .any ex quantifier body =
      .ok (.oneOf (qualified q.source.name typeColumn) [] (ex = .absent)) := by
  simp only [existence, hrelation, hkind, bind, Except.bind]
  rfl

theorem existence_of_types {typeColumn idColumn : String} {morphs : List (String × String)}
    (hrelation : q.model.relation name = .ok relation)
    (hkind : relation.kind = .morphTo typeColumn idColumn morphs) (hne : morphs ≠ [])
    (ex : Existence) (quantifier : Option (String × Value)) (body : Building Query Unit) :
    q.existence name .any ex quantifier body =
      (morphs.mapM fun m => q.alternative typeColumn idColumn quantifier (ex = .absent) body
        m.1 m.2).map .group := by
  obtain ⟨m, rest, rfl⟩ := List.exists_cons_of_ne_nil hne
  simp only [existence, hrelation, hkind, bind, Except.bind]
  cases (m :: rest).mapM fun m => q.alternative typeColumn idColumn quantifier (ex = .absent) body
    m.1 m.2 <;> rfl

theorem existence_of_link {types : RelatedTypes}
    (hrelation : q.model.relation name = .ok relation)
    (hkind : ∀ typeColumn idColumn morphs,
      relation.kind = .morphTo typeColumn idColumn morphs → types ≠ .any)
    (ex : Existence) (quantifier : Option (String × Value)) (body : Building Query Unit) :
    q.existence name types ex quantifier body =
      (q.link relation).bind fun rl => quantified rl.1 rl.2 quantifier (ex = .absent) body := by
  simp only [existence, hrelation, bind, Except.bind]
  split
  · rename_i h
    exact absurd rfl (hkind _ _ _ h)
  · rename_i h
    exact absurd rfl (hkind _ _ _ h)
  · rfl

end Query

theorem alike_alternatives (q : Query) (typeColumn idColumn : String)
    (quantifier : Option (String × Value)) (body : Building Query Unit)
    (morphs : List (String × String)) :
    Except.Alike
      (morphs.mapM fun m => q.alternative typeColumn idColumn quantifier false body m.1 m.2)
      (morphs.mapM fun m => q.alternative typeColumn idColumn quantifier true body m.1 m.2) := by
  refine Except.alike_mapM fun m _ => ?_
  rw [Query.alternative_eq, Query.alternative_eq, Query.typeCondition_true]
  cases q.typeCondition idColumn quantifier false body m.2 with
  | error e => exact .inl ⟨e, rfl, rfl⟩
  | ok c => exact .inr ⟨_, _, rfl, rfl⟩

variable {q : Query} {name : String} {relation : Relation} {typeColumn idColumn : String}
  {morphs : List (String × String)} {quantifier : Option (String × Value)}
  {body : Building Query Unit}

theorem Query.AsksTypes.unique {types : RelatedTypes} {typeColumn' idColumn' : String}
    {morphs' : List (String × String)} (h : q.AsksTypes name types typeColumn idColumn morphs)
    (h' : q.AsksTypes name types typeColumn' idColumn' morphs') :
    typeColumn = typeColumn' ∧ idColumn = idColumn' ∧ morphs = morphs' := by
  obtain ⟨relation, hrelation, hkind⟩ := h.relation
  obtain ⟨relation', hrelation', hkind'⟩ := h'.relation
  obtain rfl : relation = relation' := by simpa [hrelation] using hrelation'
  simpa [hkind] using hkind'

/-- If every type can be asked and no tag stands for two of them, the rows of these types are the
ones that get one answer. -/
theorem Row.existsUnique_answers_iff (row : Row)
    (hasked : ∀ m ∈ morphs, ∃ c, q.typeCondition idColumn quantifier false body m.2 = .ok c)
    (htags : (morphs.map Prod.fst).Nodup) :
    (∃! answer, row.Answers q typeColumn idColumn quantifier body morphs answer) ↔
      ∃ m ∈ morphs, row.text (qualified q.source.name typeColumn) = some m.1 := by
  constructor
  · rintro ⟨answer, ⟨tag, model, c, hm, htag, _⟩, _⟩
    exact ⟨(tag, model), hm, htag⟩
  · rintro ⟨⟨tag, model⟩, hm, htag⟩
    obtain ⟨c, hc⟩ := hasked _ hm
    refine ⟨row.holds c, ⟨tag, model, c, hm, htag, hc, rfl⟩, ?_⟩
    rintro answer ⟨tag', model', c', hm', htag', hc', rfl⟩
    obtain rfl : tag = tag' := by simpa [htag] using htag'
    obtain rfl : model = model' :=
      congrArg Prod.snd (List.inj_on_of_nodup_map htags hm hm' rfl)
    obtain rfl : c = c' := by simpa [hc] using hc'
    rfl

theorem asked_of_alternatives {negated : Bool} {alternatives : List Clause}
    (h : List.Forall₂ (fun m cl => q.alternative typeColumn idColumn quantifier negated body
      m.1 m.2 = .ok cl) morphs alternatives) :
    ∀ m ∈ morphs, ∃ c, q.typeCondition idColumn quantifier negated body m.2 = .ok c := by
  intro m hm
  obtain ⟨cl, _, hcl⟩ := exists_mem_of_forall₂ h.flip hm
  obtain ⟨c, hc, _⟩ := q.exists_typeCondition _ _ _ _ hcl
  exact ⟨c, hc⟩

/-- Absence says of the row what presence does not. -/
def Row.Complements (row : Row) (present absent : Condition) : Prop :=
  row.holds absent = !row.holds present

def Query.Paired (q : Query) (name : String) (types : RelatedTypes)
    (quantifier : Option (String × Value)) (body : Building Query Unit)
    (R : Condition → Condition → Prop) : Prop :=
  (∃ e, q.existence name types .present quantifier body = .error e ∧
    q.existence name types .absent quantifier body = .error e) ∨
  ∃ p a, q.existence name types .present quantifier body = .ok p ∧
    q.existence name types .absent quantifier body = .ok a ∧ R p a

theorem Query.Paired.imp {types : RelatedTypes} {R S : Condition → Condition → Prop}
    (h : q.Paired name types quantifier body R) (hRS : ∀ {p a}, R p a → S p a) :
    q.Paired name types quantifier body S := by
  obtain h | ⟨p, a, hp, ha, hR⟩ := h
  · exact .inl h
  · exact .inr ⟨p, a, hp, ha, hRS hR⟩

theorem paired_of_types (hasks : q.AsksTypes name .any typeColumn idColumn morphs) :
    q.Paired name .any quantifier body fun p a => ∀ row : Row,
      (row.Complements p a ↔
        ∃! answer, row.Answers q typeColumn idColumn quantifier body morphs answer) ∧
      ∀ m ∈ morphs, ∃ c, q.typeCondition idColumn quantifier false body m.2 = .ok c := by
  obtain ⟨relation, hrelation, hkind⟩ := hasks.relation
  have hpresent := q.existence_of_types hrelation hkind hasks.ne_nil .present quantifier body
  have habsent := q.existence_of_types hrelation hkind hasks.ne_nil .absent quantifier body
  rw [decide_eq_false (by decide)] at hpresent
  rw [decide_eq_true rfl] at habsent
  obtain ⟨e, hps, has⟩ | ⟨ps, as, hps, has⟩ :=
    alike_alternatives q typeColumn idColumn quantifier body morphs
  · rw [hps] at hpresent
    rw [has] at habsent
    exact .inl ⟨e, hpresent, habsent⟩
  · rw [hps] at hpresent
    rw [has] at habsent
    refine .inr ⟨.group ps, .group as, hpresent, habsent, fun row => ?_⟩
    have hps := Except.forall₂_of_mapM hps
    have has := Except.forall₂_of_mapM has
    have hp := row.holds_present_alternatives q typeColumn idColumn quantifier body
      hasks.ne_nil hps
    have ha := row.holds_absent_alternatives q typeColumn idColumn quantifier body
      hasks.ne_nil has
    refine ⟨?_, asked_of_alternatives hps⟩
    rw [existsUnique_bool_iff, ← hp, ← ha, Row.Complements]
    cases row.holds (.group ps) <;> cases row.holds (.group as) <;> simp

/-- Nothing is behind a relation to no type. -/
theorem paired_of_no_types (hrelation : q.model.relation name = .ok relation)
    (hkind : relation.kind = .morphTo typeColumn idColumn []) :
    q.Paired name .any quantifier body fun p a => ∀ row : Row, row.Complements p a := by
  refine .inr ⟨_, _, q.existence_of_no_types hrelation hkind .present quantifier body,
    q.existence_of_no_types hrelation hkind .absent quantifier body, fun row => ?_⟩
  simp [Row.Complements, Row.holds]

theorem paired_of_link {types : RelatedTypes} (hrelation : q.model.relation name = .ok relation)
    (hkind : ∀ typeColumn idColumn morphs,
      relation.kind = .morphTo typeColumn idColumn morphs → types ≠ .any) :
    q.Paired name types quantifier body fun p a => ∀ row : Row, row.Complements p a := by
  have hpresent := q.existence_of_link hrelation hkind .present quantifier body
  have habsent := q.existence_of_link hrelation hkind .absent quantifier body
  rw [decide_eq_false (by decide)] at hpresent
  rw [decide_eq_true rfl] at habsent
  cases hl : q.link relation with
  | error e =>
    rw [hl] at hpresent habsent
    exact .inl ⟨e, hpresent, habsent⟩
  | ok rl =>
    rw [hl] at hpresent habsent
    dsimp only [Except.bind] at hpresent habsent
    rw [Query.quantified_true] at habsent
    cases hp : Query.quantified rl.1 rl.2 quantifier false body with
    | error e =>
      rw [hp] at hpresent habsent
      exact .inl ⟨e, hpresent, habsent⟩
    | ok p =>
      rw [hp] at hpresent habsent
      exact .inr ⟨p, p.negate, hpresent, habsent, fun row =>
        Query.holds_negate_of_quantified row hp⟩

/-- Where one of the two conditions cannot be built, neither can the other. Where they can, absence
is the complement of presence for exactly the rows to which a polymorphic relation gives one
answer; with tags that stand for one type each, these are the rows of its types. -/
theorem absent_complements_present_iff (q : Query) (name : String) (types : RelatedTypes)
    (quantifier : Option (String × Value)) (body : Building Query Unit) :
    (∃ e, q.existence name types .present quantifier body = .error e ∧
      q.existence name types .absent quantifier body = .error e) ∨
    ∃ p a, q.existence name types .present quantifier body = .ok p ∧
      q.existence name types .absent quantifier body = .ok a ∧
      ∀ row : Row, (row.Complements p a ↔ row.Decided q name types quantifier body) ∧
        ∀ typeColumn idColumn morphs, q.AsksTypes name types typeColumn idColumn morphs →
          (morphs.map Prod.fst).Nodup →
          (row.Complements p a ↔
            ∃ m ∈ morphs, row.text (qualified q.source.name typeColumn) = some m.1) := by
  by_cases hasks : ∃ typeColumn idColumn morphs, q.AsksTypes name types typeColumn idColumn morphs
  · obtain ⟨typeColumn, idColumn, morphs, hasks⟩ := hasks
    obtain rfl := hasks.any
    refine (paired_of_types hasks).imp fun {p a} h row => ?_
    obtain ⟨hone, hasked⟩ := h row
    refine ⟨hone.trans ⟨fun hanswer _ _ _ hasks' => ?_, fun hdecided => hdecided _ _ _ hasks⟩,
      fun typeColumn' idColumn' morphs' hasks' htags => ?_⟩
    · obtain ⟨rfl, rfl, rfl⟩ := hasks.unique hasks'
      exact hanswer
    · obtain ⟨rfl, rfl, rfl⟩ := hasks.unique hasks'
      exact hone.trans (row.existsUnique_answers_iff hasked htags)
  · -- No type is asked: one condition is the other turned around, for every row.
    have hall : q.Paired name types quantifier body fun p a => ∀ row : Row,
        row.Complements p a := by
      cases hrelation : q.model.relation name with
      | error e =>
        have hnone : ∀ ex, q.existence name types ex quantifier body = .error e := fun ex => by
          simp only [Query.existence, hrelation, bind, Except.bind]
        exact .inl ⟨e, hnone .present, hnone .absent⟩
      | ok relation =>
        by_cases hkind : ∃ typeColumn idColumn,
            relation.kind = .morphTo typeColumn idColumn [] ∧ types = .any
        · obtain ⟨typeColumn, idColumn, hkind, rfl⟩ := hkind
          exact paired_of_no_types hrelation hkind
        · refine paired_of_link hrelation ?_
          rintro typeColumn idColumn morphs hmorphs rfl
          cases morphs with
          | nil => exact hkind ⟨_, _, hmorphs, rfl⟩
          | cons m rest =>
            exact hasks ⟨_, _, _, ⟨relation, hrelation, hmorphs⟩, rfl, List.cons_ne_nil m rest⟩
    refine hall.imp fun h row => ⟨iff_of_true (h row) ?_, ?_⟩
    · exact fun typeColumn idColumn morphs h => absurd ⟨typeColumn, idColumn, morphs, h⟩ hasks
    · exact fun typeColumn idColumn morphs h => absurd ⟨typeColumn, idColumn, morphs, h⟩ hasks

/-! ### A row of no type -/

def remarks : Query :=
  let article : Model := { entity := { name := "Article", table := "articles" } }
  let remark : Model := {
    entity := { name := "Remark", table := "remarks" }
    relations := [⟨"subject", .morphTo "subject_type" "subject_id" [("article", "Article")]⟩] }
  { schema := { models := [remark, article] }, model := remark }

def blankRow : Row where
  text _ := none
  yields _ := false
  counts _ _ _ := false
  passes _ := false

/-- It is neither among the remarks that have a subject nor among those that have none. -/
theorem holds_subject_blankRow :
    ∃ p a, remarks.existence "subject" .any .present none (pure ()) = .ok p ∧
      remarks.existence "subject" .any .absent none (pure ()) = .ok a ∧
      blankRow.holds p = false ∧ blankRow.holds a = false :=
  ⟨_, _, rfl, rfl, rfl, rfl⟩

end Sql
end RelationalQuery
