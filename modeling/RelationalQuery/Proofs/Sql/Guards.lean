import RelationalQuery.Proofs.Loading.Exchange
import RelationalQuery.Proofs.Sql.Reachable
import RelationalQuery.Proofs.Sql.Reading

/-! Conditions that no `or` gets around: the keys of a restricted query, and the link of a
subquery to the row outside. -/
namespace RelationalQuery

def RelationKind.models : RelationKind → List String
  | .hasMany model .. | .hasOne model .. | .belongsTo model .. => [model]
  | .morphTo _ _ types => types.map Prod.snd

namespace Sql

open Json (Value)

/-! ### Restricted queries -/

/-- The `WHERE` part of `r` says that a guard holds and what the one of `q` says. -/
structure GuardedBy (guard : Condition) (q r : Query) : Prop where
  before : ∀ hole, q.whereFragment hole = whereText hole (clauseTokens q.clauses)
  after : ∀ hole, r.whereFragment hole =
    (" WHERE " : Fragment) ++ renderTokens hole (clauseTokens r.clauses)
  reading : ∀ a, ∃ b, readWhere a (clauseTokens q.clauses) = some b ∧
    readTokens a (clauseTokens r.clauses) = some (a.test guard && b)

def Query.keysCondition (q : Query) (column : String) (keys : List Value) : Condition :=
  .oneOf (qualified q.model.table column) keys false

theorem Query.WellFormed.guardedBy_keys {q : Query} (h : q.WellFormed) (column : String)
    (keys : List Value) :
    GuardedBy (q.keysCondition column keys) q (q.restrictTo column keys) := by
  have hne : (q.restrictTo column keys).clauses ≠ [] := by
    obtain ⟨rest, hclauses, -⟩ := q.restrictTo_clauses column keys
    simp [hclauses]
  refine ⟨fun hole => q.whereFragment_eq hole, fun hole => ?_, fun a => ?_⟩
  · rw [Query.whereFragment_eq, whereText, isEmpty_clauseTokens, List.isEmpty_eq_false_iff.2 hne,
      if_neg Bool.false_ne_true]
  · refine ⟨_, readWhere_clauseTokens h.clauses, ?_⟩
    rw [readTokens_clauseTokens hne (h.restrictTo column keys).clauses]
    -- The clauses there were are one group, or there were none.
    unfold Query.restrictTo
    cases q.clauses <;>
      simp [meanings, listValue, joinedValue, Clause.and, Condition.meaning, Query.keysCondition]

/-- A row that is kept fulfils the guard. -/
theorem GuardedBy.of_kept {guard : Condition} {q r : Query} {a : Assignment}
    (h : GuardedBy guard q r) (hkept : readTokens a (clauseTokens r.clauses) = some true) :
    a.test guard = true := by
  obtain ⟨b, -, hread⟩ := h.reading a
  rw [hread, Option.some.injEq, Bool.and_eq_true] at hkept
  exact hkept.1

/-- Columns that are added to a projection leave the `WHERE` part as it is. -/
theorem GuardedBy.ensureSelected {guard : Condition} {q r : Query} (h : GuardedBy guard q r)
    (column : String) : GuardedBy guard q (r.ensureSelected column) := by
  rw [Query.ensureSelected_eq]
  exact ⟨h.before, h.after, h.reading⟩

/-! ### Subqueries -/

mutual

def Condition.subqueries : Condition → List Subquery
  | .exists subquery _ => [subquery]
  | .count subquery .. => [subquery]
  | .group clauses => subqueriesOf clauses
  | _ => []

def subqueriesOf : List Clause → List Subquery
  | [] => []
  | ⟨_, c⟩ :: rest => c.subqueries ++ subqueriesOf rest

end

def Query.linkOf (q r : Query) : RelationKind → Link
  | .hasMany _ foreignKey localKey | .hasOne _ foreignKey localKey =>
    ⟨r.source.name, foreignKey, q.source.name, localKey⟩
  | .belongsTo _ foreignKey ownerKey => ⟨r.source.name, ownerKey, q.source.name, foreignKey⟩
  | .morphTo _ idColumn _ => ⟨r.source.name, r.model.entity.primaryKey, q.source.name, idColumn⟩

/-- What tests on the columns of the table of `r` say where the table goes by another name. -/
def Assignment.within (a : Assignment) (r : Query) : Assignment where
  test c := a.test (match r.asName with
    | none => c
    | some name => c.requalify r.model.table name)
  link := a.link

/-- A subquery over rows of `r`, a query without clauses to which an action has added those of
`t`. Its `WHERE` part says that the link holds and what the added clauses say, once they are
pointed at the name of the subquery's table. -/
structure Linked (link : Link) (r t : Query) (s : Subquery) : Prop where
  fresh : r.clauses = []
  text : ∃ projection : Projection, ∀ hole, s.render hole =
    ("SELECT " ++ projection.sql ++ " FROM " ++ r.source.sql ++ " WHERE " : Fragment) ++
      renderTokens hole s.whereTokens
  reading : ∀ a, ∃ b, readWhere (a.within r) (clauseTokens t.clauses) = some b ∧
    readWhere a (clauseTokens t.ownClauses) = some b ∧
    readTokens a s.whereTokens = some (a.link link && b)

/-- A row that a subquery finds is linked to the row outside. -/
theorem Linked.of_kept {link : Link} {r t : Query} {s : Subquery} {a : Assignment}
    (h : Linked link r t s) (hkept : readTokens a s.whereTokens = some true) :
    a.link link = true := by
  obtain ⟨b, -, -, hread⟩ := h.reading a
  rw [hread, Option.some.injEq, Bool.and_eq_true] at hkept
  exact hkept.1

def Query.LinksTo (q : Query) (kind : RelationKind) (body : Building Query Unit) (model : String)
    (s : Subquery) : Prop :=
  ∃ r t, q.subquery model = .ok r ∧ body r = .ok () t ∧ Linked (q.linkOf r kind) r t s

def Query.LinksEach (q : Query) (name : String) (body : Building Query Unit)
    (subqueries : List Subquery) : Prop :=
  ∃ relation, q.model.relation name = .ok relation ∧
    List.Forall₂ (q.LinksTo relation.kind body) relation.kind.models subqueries

namespace Query

/-- Only names are moved, so the clauses join as before. -/
theorem meanings_ownClauses (a : Assignment) {r t : Query} (h : SamePlace r t) :
    meanings a.test t.ownClauses = meanings (a.within r).test t.clauses := by
  unfold ownClauses Assignment.within
  rw [← h.asName, ← h.model]
  cases t.asName with
  | none => rfl
  | some name => exact meanings_requalifyAll a.test t.model.table name t.clauses

theorem linked_related {r t : Query} {projection : Projection} {link : Link}
    (hfresh : r.clauses = []) (hplace : SamePlace r t) (ht : t.WellFormed) :
    Linked link r t (.related projection t.source link t.ownClauses) where
  fresh := hfresh
  text := ⟨projection, fun hole => by rw [Subquery.render_related, hplace.source]⟩
  reading a := by
    refine ⟨_, readWhere_clauseTokens ht.clauses, ?_, ?_⟩
    · rw [readWhere_clauseTokens ht.ownClauses, meanings_ownClauses a hplace]
    · rw [readTokens_whereTokens _ _ _ ht.ownClauses, meanings_ownClauses a hplace]

/-- A relation leads to one model, unless it is polymorphic. -/
theorem link_eq_linkOf {q r : Query} {relation : Relation} {l : Link}
    (h : q.link relation = .ok (r, l)) :
    ∃ model, relation.kind.models = [model] ∧ q.subquery model = .ok r ∧
      l = q.linkOf r relation.kind := by
  unfold link at h
  split at h
  all_goals rename_i hkind
  · obtain ⟨s, hs, h⟩ := Except.bind_eq_ok.1 h
    cases h
    rw [hkind]
    exact ⟨_, rfl, hs, rfl⟩
  · obtain ⟨s, hs, h⟩ := Except.bind_eq_ok.1 h
    cases h
    rw [hkind]
    exact ⟨_, rfl, hs, rfl⟩
  · obtain ⟨s, hs, h⟩ := Except.bind_eq_ok.1 h
    cases h
    rw [hkind]
    exact ⟨_, rfl, hs, rfl⟩
  · cases h

section
variable {depth : Nat} {body : Building Query Unit}
  (hbody : ∀ s, (builder depth).Reaches s (body.final s))
include hbody

theorem linked_of_body {q r t : Query} {model : String} {projection : Projection} {link : Link}
    (hr : q.subquery model = .ok r) (ht : body r = .ok () t) :
    Linked link r t (.related projection t.source link t.ownClauses) := by
  have hreaches := hbody r
  rw [Building.final_of_ok ht] at hreaches
  have hplace := (growth_samePlace.respects depth).of_reaches hreaches
  have hkeeps := (growth_keepsWellFormed.respects depth).of_reaches hreaches
  refine linked_related ?_ hplace (hkeeps (.subquery hr))
  obtain ⟨m, -, rfl⟩ := subquery_eq_ok hr
  rfl

theorem linksTo_of_quantified {q r : Query} {model : String} {kind : RelationKind}
    {quantifier : Option (String × Value)} {negated : Bool} {c : Condition}
    (hr : q.subquery model = .ok r)
    (h : quantified r (q.linkOf r kind) quantifier negated body = .ok c) :
    ∃ s, c.subqueries = [s] ∧ q.LinksTo kind body model s := by
  obtain ⟨t, ht, ⟨-, rfl⟩ | ⟨operator, count, -, rfl⟩⟩ := quantified_eq_ok h
  · exact ⟨_, rfl, r, t, hr, ht, linked_of_body hbody hr ht⟩
  · exact ⟨_, rfl, r, t, hr, ht, linked_of_body hbody hr ht⟩

/-- The induction is on the types that are left; the relation has them all. -/
theorem linksTo_of_alternatives {q : Query} {typeColumn idColumn : String}
    {types left : List (String × String)} {quantifier : Option (String × Value)} {negated : Bool}
    {alternatives : List Clause}
    (h : List.Forall₂ (fun type cl => q.alternative typeColumn idColumn quantifier negated body
      type.1 type.2 = .ok cl) left alternatives) :
    List.Forall₂ (q.LinksTo (.morphTo typeColumn idColumn types) body) (left.map Prod.snd)
      (subqueriesOf alternatives) := by
  induction h with
  | nil => exact .nil
  | cons hcl _ ih =>
    obtain ⟨r, c, hr, hc, rfl⟩ := alternative_eq_ok hcl
    change quantified r (q.linkOf r (.morphTo typeColumn idColumn types)) _ _ _ = .ok c at hc
    obtain ⟨s, hs, hlinks⟩ := linksTo_of_quantified hbody hr hc
    simp only [Clause.or, Clause.and, subqueriesOf, Condition.subqueries, hs, List.nil_append,
      List.append_nil]
    exact .cons hlinks ih

/-- The condition on a relation is about linked rows only, of each model it may lead to. -/
theorem linksEach_of_existence {q : Query} {name : String} {types : RelatedTypes}
    {ex : Existence} {quantifier : Option (String × Value)} {c : Condition}
    (h : q.existence name types ex quantifier body = .ok c) :
    q.LinksEach name body c.subqueries := by
  obtain ⟨relation, hrelation, h⟩ := existence_eq_ok h
  refine ⟨relation, hrelation, ?_⟩
  obtain ⟨_, _, hkind, -, rfl⟩ | ⟨_, _, _, _, hkind, -, -, hall, rfl⟩ | ⟨r, l, hl, h⟩ := h
  · rw [hkind]
    exact .nil
  · rw [hkind]
    exact linksTo_of_alternatives hbody hall
  · obtain ⟨model, hmodels, hr, rfl⟩ := link_eq_linkOf hl
    obtain ⟨s, hs, hlinks⟩ := linksTo_of_quantified hbody hr h
    rw [hmodels, hs]
    exact .cons hlinks .nil

theorem linksEach_of_countColumn {q : Query} {name : String} {column : CountColumn}
    (h : q.countColumn name body = .ok column) : q.LinksEach name body [column.subquery] := by
  obtain ⟨relation, r, l, t, hrelation, hl, ht, rfl⟩ := countColumn_eq_ok h
  obtain ⟨model, hmodels, hr, rfl⟩ := link_eq_linkOf hl
  refine ⟨relation, hrelation, ?_⟩
  rw [hmodels]
  exact .cons ⟨r, t, hr, ht, linked_of_body hbody hr ht⟩ .nil

end

/-- The counts there are in the end, also where one is refused, are those of the first relations
asked for. Each is a count of linked rows. -/
theorem linksEach_of_countRelated {depth : Nat} {loads : List (Load × Building Query Unit)}
    (hloads : ∀ l ∈ loads, ∀ s, (builder depth).Reaches s (l.2.final s)) (q : Query) :
    ∃ added, (countRelated loads).final q = { q with counts := q.counts ++ added } ∧
      List.Forall₂ (fun l column => q.LinksEach l.1.relation l.2 [column.subquery])
        (loads.take added.length) added := by
  induction loads generalizing q with
  | nil => exact ⟨[], by rw [List.append_nil]; rfl, .nil⟩
  | cons l rest ih =>
    obtain ⟨l, body⟩ := l
    unfold Building.final at ih ⊢
    rw [countRelated_cons]
    cases hc : q.countColumn l.relation body with
    | error error => exact ⟨[], by rw [List.append_nil], .nil⟩
    | ok column =>
      obtain ⟨added, hfinal, hadded⟩ :=
        ih (fun l hl => hloads l (by simp [hl])) { q with counts := q.counts ++ [column] }
      refine ⟨column :: added, ?_, .cons ?_ hadded⟩
      · simpa using hfinal
      · exact linksEach_of_countColumn (hloads (l, body) (by simp)) hc

theorem guardedBy_of_relatedQuery {q r : Query} {load : Load} {model column : String}
    {keys : List Value} (h : q.relatedQuery load model column keys = .ok r) :
    ∃ fresh shaped, q.related model = .ok fresh ∧ run load.body fresh = .ok () shaped ∧
      GuardedBy (shaped.keysCondition column keys) shaped r := by
  obtain ⟨related, shaped, hrelated, hshaped, rfl⟩ := relatedQuery_eq_ok h
  have hfresh : q.related model = .ok { schema := q.schema, model := related } := by
    unfold Query.related ofModel
    rw [hrelated]
    rfl
  have hkeeps := (growth_keepsWellFormed.respects scopeDepth).run load.body
    { schema := q.schema, model := related }
  rw [show ((builder scopeDepth).run load.body).final _ = shaped from
    Building.final_of_ok hshaped] at hkeeps
  refine ⟨_, shaped, hfresh, hshaped, ?_⟩
  exact ((hkeeps (.ofModel hfresh)).guardedBy_keys column keys).ensureSelected column

/-- Neither what a load or a scope asks for nor what is said about related rows gets around the
keys of a restricted query and the links of subqueries, whatever joins it uses. -/
theorem guards_hold (schema : Schema) (depth : Nat) :
    (∀ {q}, Reachable schema q → ∀ column keys,
      GuardedBy (q.keysCondition column keys) q (q.restrictTo column keys)) ∧
    (∀ {q r : Query} {load model column keys}, q.relatedQuery load model column keys = .ok r →
      ∃ fresh shaped, q.related model = .ok fresh ∧ run load.body fresh = .ok () shaped ∧
        GuardedBy (shaped.keysCondition column keys) shaped r) ∧
    (∀ {q r join name types ex operator count},
      (builder depth).has join name types ex operator count q = .ok () r →
      ∃ c, r = q.push join c ∧ q.LinksEach name (pure ()) c.subqueries) ∧
    (∀ {q r join name types ex} {body : Building Query Unit},
      (∀ s, (builder depth).Reaches s (body.final s)) →
      (builder depth).whereHas join name types ex body q = .ok () r →
      ∃ c, r = q.push join c ∧ q.LinksEach name body c.subqueries) ∧
    ∀ {q : Query} {loads : List (Load × Building Query Unit)},
      (∀ l ∈ loads, ∀ s, (builder depth).Reaches s (l.2.final s)) →
      ∃ added, ((builder depth).countRelated loads).final q =
          { q with counts := q.counts ++ added } ∧
        List.Forall₂ (fun l column => q.LinksEach l.1.relation l.2 [column.subquery])
          (loads.take added.length) added := by
  obtain ⟨callScope, hb⟩ := builder_eq depth
  refine ⟨fun h column keys => h.wellFormed.guardedBy_keys column keys,
    guardedBy_of_relatedQuery, ?_, ?_, ?_⟩
  · intro q r join name types ex operator count h
    rw [hb, has_eq] at h
    obtain ⟨c, hc, hr⟩ := pushFound_eq_ok.1 h
    have hnothing : ∀ s, (builder depth).Reaches s ((pure () : Building Query Unit).final s) :=
      Builder.Reaches.refl
    exact ⟨c, hr, linksEach_of_existence hnothing hc⟩
  · intro q r join name types ex body hbody h
    rw [hb, whereHas_eq] at h
    obtain ⟨c, hc, hr⟩ := pushFound_eq_ok.1 h
    exact ⟨c, hr, linksEach_of_existence hbody hc⟩
  · intro q loads hloads
    have hcount : (builder depth).countRelated loads = countRelated loads := by
      rw [hb]
      rfl
    rw [hcount]
    exact linksEach_of_countRelated hloads q

/-! ### Nodes below nodes -/

def namedOrNot : List Step := [.filter .and (.isNull "name?" false), .callScope "named" [.str "x"]]

def unnamedNodes : Query := (run namedOrNot).final allNodes

def belowLoad : Load := ⟨"below", false, namedOrNot⟩

def belowNodes : Query := (unnamedNodes.restrictTo "up" [.str "y"]).ensureSelected "up"

def belowBody : Building Query Unit := (builder 1).run namedOrNot

theorem guards_hold_allNodes :
    GuardedBy (unnamedNodes.keysCondition "id" [.null]) unnamedNodes
      (unnamedNodes.restrictTo "id" [.null]) ∧
    (∃ fresh shaped, allNodes.related "Node" = .ok fresh ∧
      run namedOrNot fresh = .ok () shaped ∧
      GuardedBy (shaped.keysCondition "up" [.str "y"]) shaped belowNodes) ∧
    (∃ r c, (builder 1).has .or "below" .any .present ">=" (.num (.int 3)) allNodes = .ok () r ∧
      r = allNodes.push .or c ∧ allNodes.LinksEach "below" (pure ()) c.subqueries) ∧
    (∃ r c, (builder 1).whereHas .or "below" .any .absent belowBody allNodes = .ok () r ∧
      r = allNodes.push .or c ∧ allNodes.LinksEach "below" belowBody c.subqueries) ∧
    ∃ added, ((builder 1).countRelated [(belowLoad, belowBody)]).final allNodes =
        { allNodes with counts := added } ∧
      List.Forall₂ (fun l column => allNodes.LinksEach l.1.relation l.2 [column.subquery])
        ([(belowLoad, belowBody)].take added.length) added := by
  obtain ⟨hrestrict, hload, hhas, hwhereHas, hcount⟩ := guards_hold tree 1
  have hbody : ∀ s, (builder 1).Reaches s (belowBody.final s) :=
    Builder.respects_reaches.run namedOrNot
  have hfresh : Reachable tree allNodes := .ofModel (rfl : ofModel tree "Node" = .ok allNodes)
  have hrelated : allNodes.relatedQuery belowLoad "Node" "up" [.str "y"] = .ok belowNodes := rfl
  have hthree : (builder 1).has .or "below" .any .present ">=" (.num (.int 3)) allNodes =
      .ok () _ := Building.ok_of_succeeds (by rfl)
  have hunnamed : (builder 1).whereHas .or "below" .any .absent belowBody allNodes = .ok () _ :=
    Building.ok_of_succeeds (by rfl)
  refine ⟨hrestrict (hfresh.run namedOrNot) _ _, hload hrelated, ?_, ?_, ?_⟩
  · obtain ⟨c, hr, hlinks⟩ := hhas hthree
    exact ⟨_, c, hthree, hr, hlinks⟩
  · obtain ⟨c, hr, hlinks⟩ := hwhereHas hbody hunnamed
    exact ⟨_, c, hunnamed, hr, hlinks⟩
  · refine hcount fun l hl => ?_
    rw [List.mem_singleton.1 hl]
    exact hbody

end Query
end Sql
end RelationalQuery
