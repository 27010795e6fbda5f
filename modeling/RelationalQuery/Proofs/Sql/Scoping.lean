import RelationalQuery.Proofs.Sql.Place
import RelationalQuery.Proofs.Sql.Reachable
import RelationalQuery.Proofs.Sql.Resolution

/-! Names in nested subqueries. A subquery goes by another name than the query around it, and its
own conditions are moved to that name. So each side of the link between the two is a column of the
row it is meant for, except where the name of the one around is an end of a name that the source
of the subquery is visible under. -/
namespace RelationalQuery

/-- The columns that link rows of one model to rows of another by some relation. -/
def Schema.Links (schema : Schema) (outer inner : Model) (innerColumn outerColumn : String) :
    Prop :=
  ∃ name relation, outer.relation name = .ok relation ∧
    match relation.kind with
    | .hasMany model foreignKey localKey | .hasOne model foreignKey localKey =>
      schema.model model = .ok inner ∧ innerColumn = foreignKey ∧ outerColumn = localKey
    | .belongsTo model foreignKey ownerKey =>
      schema.model model = .ok inner ∧ innerColumn = ownerKey ∧ outerColumn = foreignKey
    | .morphTo _ idColumn types =>
      (∃ tag model, (tag, model) ∈ types ∧ schema.model model = .ok inner) ∧
        innerColumn = inner.entity.primaryKey ∧ outerColumn = idColumn

namespace Sql

/-- A subquery over rows of `inner` within a query over rows of `outer`. The sources are those of
the query around it and of the queries around that one, innermost first. -/
structure WellScoped (schema : Schema) (outer inner : Model) (around : Source)
    (beyond : List Source) (source : Source) (link : Link) (clauses : List Clause) : Prop where
  table : source.table = inner.table
  name_ne : source.name ≠ around.name
  source_sql : source.sql = quoteIdentifier source.table ++
    source.asName.elim "" fun name => " AS " ++ quoteIdentifier name
  links : schema.Links outer inner link.innerColumn link.outerColumn
  link_sql : link.sql = quoteIdentifier (qualified source.name link.innerColumn) ++ " = " ++
    quoteIdentifier (qualified around.name link.outerColumn)
  resolve_inner : '.' ∉ link.innerColumn.toList → ∀ home,
    resolve home (quoteIdentifier (qualified source.name link.innerColumn))
      (source :: around :: beyond) = some source
  /-- The source around is not hidden unless its name is an end of one that this source is visible
  under. -/
  resolve_outer : '.' ∉ link.outerColumn.toList → ∀ home,
    (resolve home (quoteIdentifier (qualified around.name link.outerColumn))
      (source :: around :: beyond) = some around ↔
        ¬ Text.split '.' around.name <:+ source.visible home)
  apart : '.' ∉ source.name.toList → '.' ∉ around.name.toList → ∀ home,
    ¬ Text.split '.' around.name <:+ source.visible home
  aliases : ((source :: around :: beyond).filterMap Source.asName).Nodup
  moved : ∀ name, source.asName = some name → ¬ QualifiedBy name source.table →
    ∀ field ∈ fieldsAll clauses, ¬ QualifiedBy source.table field

section
variable (schema : Schema)

mutual

def Condition.Scoped (model : Model) (around : Source) (beyond : List Source) : Condition → Prop
  | .exists subquery _ => subquery.Scoped model around beyond
  | .count subquery _ _ _ => subquery.Scoped model around beyond
  | .group clauses => ScopedAll model around beyond clauses
  | _ => True

def ScopedAll (model : Model) (around : Source) (beyond : List Source) : List Clause → Prop
  | [] => True
  | ⟨_, c⟩ :: rest => c.Scoped model around beyond ∧ ScopedAll model around beyond rest

def Subquery.Scoped (outer : Model) (around : Source) (beyond : List Source) : Subquery → Prop
  | .related _ source link clauses =>
    ∃ inner, WellScoped schema outer inner around beyond source link clauses ∧
      ScopedAll inner source (around :: beyond) clauses
  | .verbatim _ => False

end

end

variable {schema : Schema} {model : Model} {around : Source} {beyond : List Source}

theorem scopedAll_iff {clauses : List Clause} :
    ScopedAll schema model around beyond clauses ↔
      ∀ cl ∈ clauses, cl.condition.Scoped schema model around beyond := by
  induction clauses with
  | nil => simp [ScopedAll]
  | cons cl rest ih =>
    obtain ⟨j, c⟩ := cl
    simp [ScopedAll, ih, Clause.condition]

theorem scoped_ofPredicate {predicate : Predicate} {c : Condition}
    (h : Condition.ofPredicate predicate = .ok c) : c.Scoped schema model around beyond := by
  match predicate with
  | .compare field operator value =>
    simp only [Condition.ofPredicate, Except.ok.injEq] at h
    unfold compareCondition at h
    generalize comparison operator value = x at h
    obtain ⟨token, value⟩ := x
    dsimp only at h
    split at h
    · simp only [← h, Condition.Scoped]
    · split at h <;> simp only [← h, Condition.Scoped]
  | .between _ (_ :: _ :: _) _ | .oneOf .. | .isNull .. | .datePart .. =>
    simp only [Condition.ofPredicate, Except.ok.injEq] at h
    simp only [← h, Condition.Scoped]
  | .between _ [] _ | .between _ [_] _ => simp [Condition.ofPredicate] at h

theorem scopedAll_append {xs ys : List Clause} :
    ScopedAll schema model around beyond (xs ++ ys) ↔
      ScopedAll schema model around beyond xs ∧ ScopedAll schema model around beyond ys := by
  simp [scopedAll_iff, or_imp, forall_and]

mutual

/-- Moving columns leaves subqueries as they are. -/
theorem Condition.Scoped.requalify {c : Condition} (h : c.Scoped schema model around beyond)
    (table name : String) : (c.requalify table name).Scoped schema model around beyond := by
  match c with
  | .exists .. | .count .. => simpa [Condition.requalify, Condition.Scoped] using h
  | .compare .. | .oneOf .. | .between .. | .isNull .. | .datePart .. =>
    simp [Condition.requalify, Condition.Scoped]
  | .group clauses =>
    have hall : ScopedAll schema model around beyond clauses := by
      simpa [Condition.Scoped] using h
    simpa only [Condition.requalify, Condition.Scoped] using scopedAll_requalifyAll hall table name

theorem scopedAll_requalifyAll {clauses : List Clause}
    (h : ScopedAll schema model around beyond clauses) (table name : String) :
    ScopedAll schema model around beyond (requalifyAll table name clauses) := by
  match clauses with
  | [] => exact h
  | ⟨j, c⟩ :: rest =>
    obtain ⟨hc, hrest⟩ : c.Scoped schema model around beyond ∧
        ScopedAll schema model around beyond rest := by
      simpa [ScopedAll] using h
    simp only [requalifyAll, ScopedAll]
    exact ⟨hc.requalify table name, scopedAll_requalifyAll hrest table name⟩

end

namespace Query

/-- Where a query stands among others: the aliases around it are of fewer subqueries than stand
around it, each used once. -/
structure Standing (schema : Schema) (q : Query) (beyond : List Source) : Prop where
  schema_eq : q.schema = schema
  mem : q.model ∈ schema.models
  nodup : ((q.source :: beyond).filterMap Source.asName).Nodup
  earlier : ∀ name ∈ (q.source :: beyond).filterMap Source.asName, ∃ n < q.depth, name = selfName n

theorem SamePlace.standing {q r : Query} (h : SamePlace q r) :
    Standing schema r beyond ↔ Standing schema q beyond where
  mp hr := by
    obtain ⟨h₁, h₂, h₃, h₄⟩ := hr
    rw [h.schema] at h₁
    rw [h.model] at h₂
    rw [h.source] at h₃ h₄
    rw [h.depth] at h₄
    exact ⟨h₁, h₂, h₃, h₄⟩
  mpr hq := by
    obtain ⟨h₁, h₂, h₃, h₄⟩ := hq
    rw [← h.schema] at h₁
    rw [← h.model] at h₂
    rw [← h.source] at h₃ h₄
    rw [← h.depth] at h₄
    exact ⟨h₁, h₂, h₃, h₄⟩

theorem mem_models_of_model {schema : Schema} {name : String} {m : Model}
    (h : schema.model name = .ok m) : m ∈ schema.models := by
  unfold Schema.model at h
  split at h
  · rename_i found hfound
    cases h
    exact List.mem_of_find?_eq_some hfound
  · cases h

def Scoped (schema : Schema) (q : Query) : Prop :=
  ∀ beyond, Standing schema q beyond →
    ScopedAll schema q.model q.source beyond q.clauses ∧
      ∀ column ∈ q.counts, column.subquery.Scoped schema q.model q.source beyond

structure KeepsScoped (schema : Schema) (q r : Query) : Prop where
  place : SamePlace q r
  keeps : q.Scoped schema → r.Scoped schema

theorem KeepsScoped.of_conditions {q r : Query} (h : SamePlace q r)
    (hclauses : r.clauses = q.clauses) (hcounts : r.counts = q.counts) :
    KeepsScoped schema q r where
  place := h
  keeps hq beyond hstanding := by
    simpa only [hclauses, hcounts, h.model, h.source] using hq beyond (h.standing.1 hstanding)

theorem KeepsScoped.of_push {q : Query} {join : Join} {c : Condition}
    (h : ∀ {beyond}, Standing schema q beyond → c.Scoped schema q.model q.source beyond) :
    KeepsScoped schema q (q.push join c) where
  place := ⟨rfl, rfl, rfl, rfl⟩
  keeps hq beyond hstanding := by
    have hplace : SamePlace q (q.push join c) := ⟨rfl, rfl, rfl, rfl⟩
    have hstanding := hplace.standing.1 hstanding
    obtain ⟨hclauses, hcounts⟩ := hq beyond hstanding
    exact ⟨scopedAll_append.2 ⟨hclauses, h hstanding, trivial⟩, hcounts⟩

theorem Scoped.of_fresh {q : Query} (hclauses : q.clauses = []) (hcounts : q.counts = []) :
    q.Scoped schema := by
  intro beyond _
  simp [hclauses, hcounts, ScopedAll]

theorem KeepsScoped.restrictTo (column : String) (keys : List Json.Value) (q : Query) :
    KeepsScoped schema q (q.restrictTo column keys) where
  place := ⟨rfl, rfl, rfl, rfl⟩
  keeps hq beyond hstanding := by
    have hplace : SamePlace q (q.restrictTo column keys) := ⟨rfl, rfl, rfl, rfl⟩
    obtain ⟨hclauses, hcounts⟩ := hq beyond (hplace.standing.1 hstanding)
    refine ⟨?_, hcounts⟩
    unfold Query.restrictTo
    by_cases he : q.clauses.isEmpty
    · simp only [he, if_true]
      exact ⟨trivial, trivial⟩
    · simp only [he, Bool.false_eq_true, if_false]
      exact ⟨trivial, hclauses, trivial⟩

theorem KeepsScoped.ensureSelected (column : String) (q : Query) :
    KeepsScoped schema q (q.ensureSelected column) := by
  unfold Query.ensureSelected
  dsimp only
  split
  · exact .of_conditions ⟨rfl, rfl, rfl, rfl⟩ rfl rfl
  · exact .of_conditions ⟨rfl, rfl, rfl, rfl⟩ rfl rfl

theorem subquery_source {q r : Query} {name : String} (h : q.subquery name = .ok r) :
    q.schema.model name = .ok r.model ∧ r.schema = q.schema ∧ r.depth = q.depth + 1 ∧
      r.asName = if r.model.table = q.model.table then some (selfName q.depth) else none := by
  obtain ⟨m, hm, rfl⟩ := subquery_eq_ok h
  exact ⟨hm, rfl, rfl, rfl⟩

theorem link_links {q r : Query} {name : String} {relation : Relation} {l : Link}
    (hrelation : q.model.relation name = .ok relation) (h : q.link relation = .ok (r, l)) :
    ∃ model, q.subquery model = .ok r ∧
      q.schema.Links q.model r.model l.innerColumn l.outerColumn ∧
      l.inner = r.source.name ∧ l.outer = q.source.name := by
  unfold link at h
  split at h
  all_goals try cases h
  all_goals
    rename_i hkind
    obtain ⟨s, hs, h⟩ := Except.bind_eq_ok.1 h
    cases h
    refine ⟨_, hs, ⟨name, relation, hrelation, ?_⟩, rfl, rfl⟩
    rw [hkind]
    exact ⟨(subquery_source hs).1, rfl, rfl⟩

/-- A subquery stands one level further in. -/
theorem Standing.subquery {q r : Query} {name : String} (h : Standing schema q beyond)
    (hr : q.subquery name = .ok r) : Standing schema r (q.source :: beyond) := by
  obtain ⟨hmodel, hschema, hdepth, hname⟩ := subquery_source hr
  have hfresh : selfName q.depth ∉ (q.source :: beyond).filterMap Source.asName := by
    intro hmem
    obtain ⟨n, hn, heq⟩ := h.earlier _ hmem
    exact absurd (selfName_injective heq) (by omega)
  have hearlier : ∀ name ∈ (q.source :: beyond).filterMap Source.asName,
      ∃ n < r.depth, name = selfName n := by
    intro name hmem
    obtain ⟨n, hn, rfl⟩ := h.earlier name hmem
    exact ⟨n, by omega, rfl⟩
  have hnames : (r.source :: q.source :: beyond).filterMap Source.asName =
      r.asName.toList ++ (q.source :: beyond).filterMap Source.asName := by
    rw [List.filterMap_cons]
    cases hr : r.asName <;> simp [Query.source, hr]
  refine ⟨hschema.trans h.schema_eq, mem_models_of_model (h.schema_eq ▸ hmodel), ?_, ?_⟩
  · rw [hnames, hname]
    split
    · exact List.nodup_cons.2 ⟨hfresh, h.nodup⟩
    · exact h.nodup
  · rw [hnames, hname]
    split
    · intro name hmem
      obtain rfl | hmem := List.mem_cons.1 hmem
      · exact ⟨q.depth, by omega, rfl⟩
      · exact hearlier name hmem
    · exact hearlier

/-- Aliases are generated ones. -/
theorem Standing.plainAlias {q : Query} (h : Standing schema q beyond) : q.source.PlainAlias := by
  intro name hname
  obtain ⟨n, -, rfl⟩ := h.earlier name (List.mem_filterMap.2 ⟨_, List.mem_cons_self, hname⟩)
  exact point_not_mem_selfName n

section
variable (htables : ∀ m ∈ schema.models, ∀ n, m.table ≠ selfName n)
include htables

theorem Standing.subquery_name_ne {q r : Query} {name : String} (h : Standing schema q beyond)
    (hr : q.subquery name = .ok r) : r.source.name ≠ q.source.name := by
  obtain ⟨hmodel, hschema, hdepth, hname⟩ := subquery_source hr
  have hmem := mem_models_of_model (h.schema_eq ▸ hmodel)
  have hsource : r.source.name = r.asName.getD r.model.table := rfl
  have hsource' : q.source.name = q.asName.getD q.model.table := rfl
  rw [hsource, hsource', hname]
  -- An alias is neither a table's name nor one that is in use further out.
  cases hq : q.asName with
  | none =>
    split
    · exact (htables q.model h.mem q.depth).symm
    · rename_i htable
      exact htable
  | some other =>
    obtain ⟨n, hn, rfl⟩ := h.earlier other (by simp [Query.source, hq])
    split
    · intro heq
      exact absurd (selfName_injective heq) (by omega)
    · exact htables r.model hmem n

/-- What a body makes of a fresh subquery is well scoped within the query around it. -/
theorem Standing.wellScoped {q r t : Query} {name : String} {l : Link}
    (h : Standing schema q beyond) (hr : q.subquery name = .ok r) (ht : SamePlace r t)
    (hlinks : schema.Links q.model r.model l.innerColumn l.outerColumn)
    (hinner : l.inner = r.source.name) (houter : l.outer = q.source.name) :
    WellScoped schema q.model r.model q.source beyond t.source l t.ownClauses := by
  have hstanding := h.subquery hr
  have hne := h.subquery_name_ne htables hr
  rw [ht.source]
  exact {
    table := rfl
    name_ne := hne
    source_sql := r.source.sql_eq
    links := hlinks
    link_sql := by rw [Link.sql, hinner, houter]
    resolve_inner := fun hcolumn home => resolve_inner hstanding.plainAlias hcolumn
    resolve_outer := fun hcolumn home =>
      resolve_outer_iff h.plainAlias (fun heq => hne (congrArg Source.name heq)) hcolumn
    apart := fun hsource haround home => not_split_name_suffix hsource haround hne
    aliases := hstanding.nodup
    moved := by
      intro other hother hstart field hfield
      have hasName : t.asName = some other := ht.asName.trans hother
      have hmoved : t.ownClauses = requalifyAll r.model.table other t.clauses := by
        simp only [ownClauses, hasName, ht.model]
      obtain ⟨n, -, rfl⟩ := hstanding.earlier other (by simp [hother])
      rw [hmoved, fieldsAll_requalifyAll] at hfield
      obtain ⟨original, -, rfl⟩ := List.mem_map.1 hfield
      exact not_qualifiedBy_moveColumn (htables r.model hstanding.mem n) hstart }

section
variable {body : Building Query Unit} (hbody : ∀ r, KeepsScoped schema r (body.final r))
include hbody

theorem Standing.scoped_related {q r t : Query} {name : String} {l : Link} (p : Projection)
    (h : Standing schema q beyond) (hr : q.subquery name = .ok r) (ht : body r = .ok () t)
    (hlinks : schema.Links q.model r.model l.innerColumn l.outerColumn)
    (hinner : l.inner = r.source.name) (houter : l.outer = q.source.name) :
    (Subquery.related p t.source l t.ownClauses).Scoped schema q.model q.source beyond := by
  have hkeeps := hbody r
  rw [Building.final_of_ok ht] at hkeeps
  have hfresh : r.Scoped schema := by
    obtain ⟨m, -, rfl⟩ := subquery_eq_ok hr
    exact .of_fresh rfl rfl
  have hclauses := (hkeeps.keeps hfresh _ (hkeeps.place.standing.2 (h.subquery hr))).1
  refine ⟨r.model, h.wellScoped htables hr hkeeps.place hlinks hinner houter, ?_⟩
  rw [← hkeeps.place.model]
  unfold ownClauses
  split
  · exact hclauses
  · exact scopedAll_requalifyAll hclauses _ _

theorem Standing.scoped_quantified {q r : Query} {name : String} {l : Link}
    {quantifier : Option (String × Json.Value)} {negated : Bool} {c : Condition}
    (h : Standing schema q beyond) (hr : q.subquery name = .ok r)
    (hlinks : schema.Links q.model r.model l.innerColumn l.outerColumn)
    (hinner : l.inner = r.source.name) (houter : l.outer = q.source.name)
    (hc : quantified r l quantifier negated body = .ok c) :
    c.Scoped schema q.model q.source beyond := by
  obtain ⟨t, ht, ⟨-, rfl⟩ | ⟨operator, count, -, rfl⟩⟩ := quantified_eq_ok hc
  · exact h.scoped_related htables hbody .rows hr ht hlinks hinner houter
  · exact h.scoped_related htables hbody .count hr ht hlinks hinner houter

theorem Standing.scoped_alternative {q : Query} {name typeColumn idColumn tag model : String}
    {relation : Relation} {morphs : List (String × String)}
    {quantifier : Option (String × Json.Value)} {negated : Bool} {cl : Clause}
    (h : Standing schema q beyond) (hrelation : q.model.relation name = .ok relation)
    (hkind : relation.kind = .morphTo typeColumn idColumn morphs) (hmem : (tag, model) ∈ morphs)
    (hcl : q.alternative typeColumn idColumn quantifier negated body tag model = .ok cl) :
    cl.condition.Scoped schema q.model q.source beyond := by
  obtain ⟨r, c, hr, hc, rfl⟩ := alternative_eq_ok hcl
  have hmodel : schema.model model = .ok r.model := h.schema_eq ▸ (subquery_source hr).1
  have hlinks : schema.Links q.model r.model r.model.entity.primaryKey idColumn := by
    refine ⟨name, relation, hrelation, ?_⟩
    rw [hkind]
    exact ⟨⟨tag, model, hmem, hmodel⟩, rfl, rfl⟩
  have hcondition := h.scoped_quantified htables hbody hr hlinks rfl rfl hc
  exact ⟨trivial, hcondition, trivial⟩

theorem Standing.scoped_existence {q : Query} {name : String} {types : RelatedTypes}
    {ex : Existence} {quantifier : Option (String × Json.Value)} {c : Condition}
    (h : Standing schema q beyond)
    (hc : q.existence name types ex quantifier body = .ok c) :
    c.Scoped schema q.model q.source beyond := by
  obtain ⟨relation, hrelation, hc⟩ := existence_eq_ok hc
  obtain ⟨_, _, -, -, rfl⟩ | ⟨typeColumn, idColumn, morphs, alternatives, hkind, -, -, hall, rfl⟩ |
    ⟨r, l, hl, hc⟩ := hc
  · trivial
  · simp only [Condition.Scoped]
    refine scopedAll_iff.2 fun cl hcl => ?_
    obtain ⟨⟨tag, model⟩, hmem, hcl⟩ := exists_mem_of_forall₂ hall hcl
    exact h.scoped_alternative htables hbody hrelation hkind hmem hcl
  · obtain ⟨model, hr, hlinks, hinner, houter⟩ := link_links hrelation hl
    exact h.scoped_quantified htables hbody hr (h.schema_eq ▸ hlinks) hinner houter hc

theorem Standing.scoped_countColumn {q : Query} {name : String} {column : CountColumn}
    (h : Standing schema q beyond) (hc : q.countColumn name body = .ok column) :
    column.subquery.Scoped schema q.model q.source beyond := by
  obtain ⟨relation, r, l, t, hrelation, hl, ht, rfl⟩ := countColumn_eq_ok hc
  obtain ⟨model, hr, hlinks, hinner, houter⟩ := link_links hrelation hl
  exact h.scoped_related htables hbody _ hr ht (h.schema_eq ▸ hlinks) hinner houter

end

theorem growth_keepsScoped : Growth (KeepsScoped schema) where
  refl q := ⟨growth_samePlace.refl q, id⟩
  trans h h' := ⟨h.place.trans h'.place, h'.keeps ∘ h.keeps⟩
  select _ q := .of_conditions ⟨rfl, rfl, rfl, rfl⟩ rfl rfl
  orderBy _ q := .of_conditions ⟨rfl, rfl, rfl, rfl⟩ rfl rfl
  load _ q := .of_conditions ⟨rfl, rfl, rfl, rfl⟩ rfl rfl
  filter _ hc := .of_push fun _ => scoped_ofPredicate hc
  group {q inner} join hinner _ := .of_push fun {beyond} hq => by
    have hnested : SamePlace q q.nested := ⟨rfl, rfl, rfl, rfl⟩
    have hplace := hnested.trans hinner.place
    have hinner := hinner.keeps (.of_fresh rfl rfl) beyond (hplace.standing.2 hq)
    simpa only [Condition.Scoped, hplace.model, hplace.source] using hinner.1
  existence _ hbody _ hc := .of_push fun hq => hq.scoped_existence htables hbody hc
  count {q name column body} hbody hcolumn := by
    have hplace : SamePlace q { q with counts := q.counts ++ [column] } := ⟨rfl, rfl, rfl, rfl⟩
    refine ⟨hplace, fun hq beyond hstanding => ?_⟩
    have hstanding := hplace.standing.1 hstanding
    obtain ⟨hclauses, hcounts⟩ := hq beyond hstanding
    refine ⟨hclauses, fun column' hmem => ?_⟩
    obtain hmem | hmem := List.mem_append.1 hmem
    · exact hcounts column' hmem
    · rw [List.mem_singleton.1 hmem]
      exact hstanding.scoped_countColumn htables hbody hcolumn

/-- Builders stand in no other query, and every subquery in them is well scoped, however deep it
stands. -/
theorem Reachable.standing_scoped {q : Query} (h : Reachable schema q) :
    q.asName = none ∧ Standing schema q [] ∧ q.Scoped schema := by
  have hstep : ∀ {q r : Query}, KeepsScoped schema q r →
      q.asName = none ∧ Standing schema q [] ∧ q.Scoped schema →
        r.asName = none ∧ Standing schema r [] ∧ r.Scoped schema := by
    rintro q r hkeeps ⟨hname, hstanding, hq⟩
    exact ⟨hkeeps.place.asName.trans hname, hkeeps.place.standing.2 hstanding, hkeeps.keeps hq⟩
  induction h with
  | ofModel h =>
    obtain ⟨m, hm, h⟩ := Except.bind_eq_ok.1 h
    cases h
    refine ⟨rfl, ⟨rfl, mem_models_of_model hm, ?_, ?_⟩, .of_fresh rfl rfl⟩ <;> simp [Query.source]
  | requests _ h ih =>
    exact hstep (((growth_keepsScoped htables).respects _).of_reaches h) ih
  | restrictTo column keys _ ih => exact hstep (.restrictTo column keys _) ih
  | ensureSelected column _ ih => exact hstep (.ensureSelected column _) ih
  | @paginate page perPage q _ ih =>
    have hkeeps : KeepsScoped schema q (q.paginate page perPage) :=
      .of_conditions ⟨rfl, rfl, rfl, rfl⟩ rfl rfl
    exact hstep hkeeps ih

theorem scoped_of_reachable {q : Query} (h : Reachable schema q) :
    q.asName = none ∧ ScopedAll schema q.model q.source [] q.clauses ∧
      ∀ column ∈ q.counts, column.subquery.Scoped schema q.model q.source [] := by
  obtain ⟨hname, hstanding, hscoped⟩ := h.standing_scoped htables
  exact ⟨hname, hscoped [] hstanding⟩

end

/-- Nodes below nodes go by one alias, those below these by another. -/
theorem scoped_treeQuery :
    (∀ m ∈ tree.models, ∀ n, m.table ≠ selfName n) ∧ treeQuery.asName = none ∧
      ScopedAll tree treeQuery.model treeQuery.source [] treeQuery.clauses ∧
      ∀ column ∈ treeQuery.counts,
        column.subquery.Scoped tree treeQuery.model treeQuery.source [] := by
  have htables : ∀ m ∈ tree.models, ∀ n, m.table ≠ selfName n := by
    intro m hm
    obtain rfl := List.mem_singleton.1 hm
    exact ne_selfName (by decide)
  exact ⟨htables, scoped_of_reachable htables reachable_treeQuery⟩

/-! ### Names that stand for others

Tables of one name in two schemas, a key column that holds a point, and a table whose name starts
like an alias. -/

def namesakes : Schema :=
  { models := [
      { entity := { name := "User", table := "users" }
        relations := [⟨"accounts", .hasMany "Account" "user_id" "id"⟩,
          ⟨"notes", .hasMany "Note" "meta.user_id" "id"⟩] },
      { entity := { name := "Account", table := "app.users" } },
      { entity := { name := "Note", table := "notes" } },
      { entity := { name := "Node", table := "self_0.x" }
        relations := [⟨"below", .hasMany "Node" "node_id" "id"⟩] }] }

def usersQuery : Query :=
  (run [.whereHas .and "accounts" .inferred .present [],
    .whereHas .and "notes" .inferred .present []]).final
      { schema := namesakes, model := namesakes.models[0] }

def nodesQuery : Query :=
  (run [.whereHas .and "below" .inferred .present
    [.filter .and (.compare "self_0.x.x.c" "=" (.num (.int 1)))]]).final
      { schema := namesakes, model := namesakes.models[3] }

/-- In a subquery over `app.users` the key of the users around it is taken for one of its own. A key
column whose name holds a point is a column of no source. A column that was moved to the alias
reads as one of the table `self_0.x` again. -/
theorem misread_namesakes :
    (∀ m ∈ namesakes.models, ∀ n, m.table ≠ selfName n) ∧
    (Reachable namesakes usersQuery ∧
      usersQuery.clauses = [
        .and (.exists (.related .rows ⟨"app.users", none⟩
          ⟨"app.users", "user_id", "users", "id"⟩ []) false),
        .and (.exists (.related .rows ⟨"notes", none⟩
          ⟨"notes", "meta.user_id", "users", "id"⟩ []) false)] ∧
      ∀ home,
        resolve home (quoteIdentifier (qualified "users" "id"))
            [⟨"app.users", none⟩, usersQuery.source] = some ⟨"app.users", none⟩ ∧
          resolve home (quoteIdentifier (qualified "notes" "meta.user_id"))
            [⟨"notes", none⟩, usersQuery.source] = none) ∧
    Reachable namesakes nodesQuery ∧
      nodesQuery.clauses = [
        .and (.exists (.related .rows ⟨"self_0.x", some "self_0"⟩
          ⟨"self_0", "node_id", "self_0.x", "id"⟩
          [.and (.compare "self_0.x.c" "=" (.num (.int 1)))]) false)] ∧
      QualifiedBy "self_0.x" "self_0.x.c" := by
  have hmodels : ∀ m ∈ namesakes.models, ∀ n, m.table ≠ selfName n := by
    intro m hm n
    obtain rfl | rfl | rfl | rfl : m = namesakes.models[0] ∨ m = namesakes.models[1] ∨
        m = namesakes.models[2] ∨ m = namesakes.models[3] := by
      simpa [namesakes] using hm
    · exact ne_selfName (by decide) n
    · exact ne_selfName (by decide) n
    · exact ne_selfName (by decide) n
    · intro heq
      exact point_not_mem_selfName n (heq ▸ by decide)
  have husers : Reachable namesakes usersQuery :=
    (@Reachable.ofModel namesakes "User" _ rfl).run _
  have hnodes : Reachable namesakes nodesQuery :=
    (@Reachable.ofModel namesakes "Node" _ rfl).run _
  refine ⟨hmodels, ⟨husers, rfl, fun home => ⟨?_, ?_⟩⟩, hnodes, rfl, ?_⟩
  · have hhides : Text.split '.' "users" <:+ Source.visible home ⟨"app.users", none⟩ :=
      ⟨["app"], rfl⟩
    rw [resolve_qualified (by decide)]
    simp only [List.find?_cons, hhides, decide_true]
  · have hparts : (Text.split '.' (qualified "notes" "meta.user_id")).dropLast =
        ["notes"] ++ ["meta"] := rfl
    rw [resolve, readName_quoteIdentifier, Option.bind_some, hparts, List.find?_eq_none]
    -- Neither source has a name that ends in the last part before the column.
    rintro s hs hvisible
    obtain ⟨front, hfront⟩ := of_decide_eq_true hvisible
    rw [← List.append_assoc] at hfront
    obtain rfl | rfl : s = ⟨"notes", none⟩ ∨ s = usersQuery.source := by simpa using hs
    · exact absurd (List.append_inj_right' hfront rfl) (by decide : ["meta"] ≠ ["notes"])
    · exact absurd (List.append_inj_right' hfront rfl) (by decide : ["meta"] ≠ ["users"])
  · exact ⟨"c".toList, rfl⟩

end Query
end Sql
end RelationalQuery
