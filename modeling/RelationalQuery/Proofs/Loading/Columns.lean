import RelationalQuery.Proofs.Loading.Join
import RelationalQuery.Proofs.Sql.Projection

/-! Loading under a projection. What is attached to rows depends on the columns in which relations
find their keys and on no others. A selection does not see to it that these are covered. -/
namespace RelationalQuery

open Json

def RelationKind.keyColumns : RelationKind → List String
  | .hasMany _ _ localKey | .hasOne _ _ localKey => [localKey]
  | .belongsTo _ foreignKey _ => [foreignKey]
  | .morphTo typeColumn idColumn _ => [typeColumn, idColumn]

def RelationKind.nothing : RelationKind → Value
  | .hasMany .. => .arr []
  | _ => .null

section
variable {kind : RelationKind} {one : Single}

theorem RelationKind.keyColumns_of_single (h : kind.single = some one) :
    kind.keyColumns = [one.source] := by
  cases kind <;> cases h <;> rfl

theorem RelationKind.nothing_of_single (h : kind.single = some one) :
    kind.nothing = one.value [] := by
  cases kind <;> cases h <;> rfl

end

namespace Sql

/-! ### Rows that agree on some columns -/

inductive Agree (shared : String → Prop) : Value → Value → Prop where
  | obj {fields fields' : List (String × Value)} :
    (∀ c, shared c → Fields.get? fields c = Fields.get? fields' c) →
      Agree shared (.obj fields) (.obj fields')
  | same (row : Value) : Agree shared row row

variable {shared : String → Prop} {row row' : Value} {rows rows' : List Value} {column : String}

theorem Agree.mono {shared' : String → Prop} (h : Agree shared row row')
    (hsub : ∀ c, shared' c → shared c) : Agree shared' row row' := by
  cases h with
  | obj hfields => exact .obj fun c hc => hfields c (hsub c hc)
  | same row => exact .same row

theorem Agree.field?_eq (h : Agree shared row row') (hc : shared column) :
    row.field? column = row'.field? column := by
  cases h with
  | obj hfields => exact hfields column hc
  | same row => rfl

theorem Agree.keyOf_eq (h : Agree shared row row') (hc : shared column) :
    keyOf row column = keyOf row' column := by
  simp only [keyOf, h.field?_eq hc]

theorem Agree.map_keyOf_eq {columns : List String} (h : Agree shared row row')
    (hcolumns : ∀ c ∈ columns, shared c) : columns.map (keyOf row) = columns.map (keyOf row') :=
  List.map_congr_left fun c hc => h.keyOf_eq (hcolumns c hc)

/-- A value put under a name on both sides is shared from then on. -/
theorem Agree.putField (h : Agree shared row row') (name : String) (value : Value) :
    Agree (fun c => shared c ∨ c = name) (row.putField name value) (row'.putField name value) := by
  cases h with
  | same row => exact .same _
  | obj hfields =>
    refine .obj fun c hc => ?_
    by_cases h : name = c
    · subst h
      rw [Fields.get?_put_self, Fields.get?_put_self]
    · rw [Fields.get?_put_of_ne _ _ h, Fields.get?_put_of_ne _ _ h]
      exact hfields c (hc.resolve_right fun heq => h heq.symm)

theorem forall₂_putField (h : List.Forall₂ (Agree shared) rows rows') (name : String)
    {value : Value → Value} (hvalue : ∀ row row', Agree shared row row' → value row = value row') :
    List.Forall₂ (Agree fun c => shared c ∨ c = name)
      (rows.map fun row => row.putField name (value row))
      (rows'.map fun row => row.putField name (value row)) := by
  rw [List.forall₂_map_left_iff, List.forall₂_map_right_iff]
  refine h.imp fun row row' hrow => ?_
  rw [hvalue row row' hrow]
  exact hrow.putField name (value row')

theorem distinctKeysFrom_eq (h : List.Forall₂ (Agree shared) rows rows') (hc : shared column)
    (seen : List String) :
    distinctKeysFrom seen column rows = distinctKeysFrom seen column rows' := by
  induction h generalizing seen with
  | nil => rfl
  | cons hrow _ ih => simp only [distinctKeysFrom, hrow.keyOf_eq hc, hrow.field?_eq hc, ih]

theorem distinctKeys_eq (h : List.Forall₂ (Agree shared) rows rows') (hc : shared column) :
    distinctKeys rows column = distinctKeys rows' column :=
  distinctKeysFrom_eq h hc []

theorem forall₂_filter_keyOf (h : List.Forall₂ (Agree shared) rows rows') (hc : shared column)
    (tag : String) : List.Forall₂ (Agree shared)
      (rows.filter fun row => keyOf row column == some tag)
      (rows'.filter fun row => keyOf row column == some tag) :=
  List.rel_filter (fun _ _ hrow => by simp only [hrow.keyOf_eq hc]) h

/-! ### Loading for rows that agree -/

def KeysIn (q : Query) (load : Load) (shared : String → Prop) : Prop :=
  ∀ relation, q.model.relation load.relation = .ok relation →
    ∀ c ∈ relation.kind.keyColumns, shared c

section
variable {m : Type → Type} [Monad m] {fetch : Query → ExceptT QueryError m (List Value)}
  {q : Query} {load : Load}

theorem fetchTargets_eq {typeColumn idColumn : String}
    (h : List.Forall₂ (Agree shared) rows rows') (htype : shared typeColumn)
    (hid : shared idColumn) :
    fetchTargets fetch q load typeColumn idColumn rows =
      fetchTargets fetch q load typeColumn idColumn rows' := by
  funext targets type
  obtain ⟨tag, model⟩ := type
  unfold fetchTargets
  dsimp only
  rw [distinctKeys_eq (forall₂_filter_keyOf h htype tag) hid]

/-- Loading a relation looks up what to give to which keys. The columns of the keys are all that it
reads of the rows for that. -/
theorem exists_lookup [LawfulMonad m] (fetch : Query → ExceptT QueryError m (List Value))
    (q : Query) (load : Load) :
    ∃ (columns : List String)
      (lookup : List Value → ExceptT QueryError m (List (Option String) → Value)),
      (∀ rows, loadRelation fetch q load rows = lookup rows >>= fun give =>
        pure (rows.map fun row => row.putField load.relation (give (columns.map (keyOf row))))) ∧
      ∀ shared, KeysIn q load shared → (∀ c ∈ columns, shared c) ∧
        ∀ rows rows', List.Forall₂ (Agree shared) rows rows' → lookup rows = lookup rows' := by
  cases hrelation : q.model.relation load.relation with
  | error error =>
    refine ⟨[], fun _ => throw error, fun rows => ?_, by simp⟩
    unfold loadRelation
    rw [hrelation]
    refine ExceptT.ext ?_
    simp only [ExceptT.run_bind, ExceptT.run_mk, ExceptT.run_throw, pure_bind]
  | ok relation =>
    obtain ⟨one, hone⟩ | ⟨typeColumn, idColumn, types, hkind⟩ := relation.kind.single_or_morphTo
    · refine ⟨[one.source], fun rows => fetchRelated fetch q load one.model one.column
        (distinctKeys rows one.source) >>= fun found => pure fun keys =>
          one.value (groupOf (groupBy one.column found) (keys.headD none)), fun rows => ?_, ?_⟩
      · rw [loadRelation_of_single hrelation hone]
        simp only [bind_assoc, pure_bind, List.map_cons, List.headD_cons]
      · intro shared hkeys
        have hkeys := hkeys relation hrelation
        rw [RelationKind.keyColumns_of_single hone] at hkeys
        refine ⟨hkeys, fun rows rows' h => ?_⟩
        simp only [distinctKeys_eq h (hkeys one.source List.mem_cons_self)]
    · refine ⟨[typeColumn, idColumn], fun rows =>
        types.foldlM (fetchTargets fetch q load typeColumn idColumn rows) [] >>= fun targets =>
          pure fun keys => targets.find (keys.headD none) (keys.tail.headD none),
        fun rows => ?_, ?_⟩
      · rw [loadRelation_of_morphTo hrelation hkind]
        simp only [bind_assoc, pure_bind, List.map_cons, List.headD_cons, List.tail_cons]
      · intro shared hkeys
        have hkeys := hkeys relation hrelation
        rw [hkind, RelationKind.keyColumns] at hkeys
        refine ⟨hkeys, fun rows rows' h => ?_⟩
        simp only [fetchTargets_eq h (hkeys typeColumn (by simp)) (hkeys idColumn (by simp))]

/-- Of the query only its place matters for what is loaded with it. -/
theorem loadAll_of_samePlace {r : Query} (h : Query.SamePlace q r) (loads : List Load)
    (rows : List Value) : loadAll fetch r loads rows = loadAll fetch q loads rows := by
  have hload (load : Load) (rows : List Value) :
      loadRelation fetch r load rows = loadRelation fetch q load rows := by
    obtain ⟨hschema, hmodel, -, -⟩ := h
    cases q
    cases r
    cases hschema
    cases hmodel
    rfl
  induction loads generalizing rows with
  | nil => rfl
  | cons load rest ih => simp only [loadAll, hload, ih]

end

section
variable {σ : Type} {fetch : Query → Asking σ (List Value)} {q : Query} {load : Load}
  {out : List Value} {s t : σ}

/-- Loading a relation reads no other columns than those of its keys. -/
theorem loadRelation_agree (hkeys : KeysIn q load shared)
    (h : List.Forall₂ (Agree shared) rows rows')
    (hload : Asking.outcome (loadRelation fetch q load rows) s = (.ok out, t)) :
    ∃ out', Asking.outcome (loadRelation fetch q load rows') s = (.ok out', t) ∧
      List.Forall₂ (Agree fun c => shared c ∨ c = load.relation) out out' := by
  obtain ⟨columns, lookup, heq, hread⟩ := exists_lookup fetch q load
  obtain ⟨hcolumns, hsame⟩ := hread shared hkeys
  rw [heq] at hload ⊢
  obtain ⟨give, s', hgive, hload⟩ := Asking.outcome_bind_eq_ok.1 hload
  obtain ⟨rfl, rfl⟩ := Asking.outcome_pure_eq_ok.1 hload
  rw [hsame rows rows' h] at hgive
  refine ⟨_, Asking.outcome_bind_eq_ok.2 ⟨give, s', hgive, Asking.outcome_pure_eq_ok.2 ⟨rfl, rfl⟩⟩,
    forall₂_putField h load.relation fun row row' hrow => ?_⟩
  rw [hrow.map_keyOf_eq hcolumns]

theorem loadAll_agree {loads : List Load} (hkeys : ∀ load ∈ loads, KeysIn q load shared)
    (h : List.Forall₂ (Agree shared) rows rows')
    (hload : Asking.outcome (loadAll fetch q loads rows) s = (.ok out, t)) :
    ∃ out', Asking.outcome (loadAll fetch q loads rows') s = (.ok out', t) ∧
      List.Forall₂ (Agree fun c => shared c ∨ c ∈ loads.map (·.relation)) out out' := by
  induction loads generalizing shared rows rows' s with
  | nil =>
    obtain ⟨rfl, rfl⟩ := Asking.outcome_pure_eq_ok.1 hload
    refine ⟨rows', Asking.outcome_pure_eq_ok.2 ⟨rfl, rfl⟩, h.imp fun _ _ hrow => ?_⟩
    exact hrow.mono (by simp)
  | cons load rest ih =>
    obtain ⟨between, s', hfirst, hload⟩ := Asking.outcome_bind_eq_ok.1 hload
    obtain ⟨between', hfirst', hbetween⟩ := loadRelation_agree (hkeys load (by simp)) h hfirst
    -- The rows go on with one more field that they agree on.
    have hrest : ∀ l ∈ rest, KeysIn q l fun c => shared c ∨ c = load.relation :=
      fun l hl relation hrelation c hc => .inl (hkeys l (by simp [hl]) relation hrelation c hc)
    obtain ⟨out', hout, hagree⟩ := ih hrest hbetween hload
    refine ⟨out', Asking.outcome_bind_eq_ok.2 ⟨between', s', hfirst', hout⟩, ?_⟩
    refine hagree.imp fun _ _ hrow => hrow.mono fun c hc => ?_
    simpa only [List.map_cons, List.mem_cons, or_assoc] using hc

/-! ### Rows that lack a column -/

theorem keyOf_of_missing (h : row.field? column = none) : keyOf row column = none := by
  simp only [keyOf, h]

theorem distinctKeysFrom_of_missing (h : ∀ row ∈ rows, row.field? column = none)
    (seen : List String) : distinctKeysFrom seen column rows = [] := by
  induction rows generalizing seen with
  | nil => rfl
  | cons row rest ih =>
    rw [List.forall_mem_cons] at h
    simp only [distinctKeysFrom, keyOf_of_missing h.1, ih h.2]

theorem groupOf_nil (key : Option String) : groupOf [] key = [] := by
  cases key <;> rfl

theorem Targets.find_nil (tag id : Option String) : Targets.find [] tag id = .null := by
  cases tag with
  | none => rfl
  | some tag => cases id <;> rfl

theorem fetchTargets_of_missing {typeColumn idColumn : String}
    (hcolumn : column = typeColumn ∨ column = idColumn)
    (hmissing : ∀ row ∈ rows, row.field? column = none) (types : List (String × String))
    (targets : Targets) :
    types.foldlM (fetchTargets fetch q load typeColumn idColumn rows) targets =
      (pure targets : Asking σ Targets) := by
  have hkeys : ∀ tag, distinctKeys (rows.filter fun row => keyOf row typeColumn == some tag)
      idColumn = [] := by
    intro tag
    obtain rfl | rfl := hcolumn
    · have hnone : rows.filter (fun row => keyOf row column == some tag) = [] := by
        refine List.filter_eq_nil_iff.2 fun row hrow => ?_
        simp [keyOf_of_missing (hmissing row hrow)]
      rw [hnone]
      rfl
    · exact distinctKeysFrom_of_missing
        (fun row hrow => hmissing row (List.mem_of_mem_filter hrow)) []
  induction types with
  | nil => rfl
  | cons type rest ih =>
    obtain ⟨tag, model⟩ := type
    have hfirst : fetchTargets fetch q load typeColumn idColumn rows targets (tag, model) =
        pure targets := by
      unfold fetchTargets
      dsimp only
      rw [hkeys tag]
      rfl
    rw [List.foldlM_cons, hfirst, pure_bind, ih]

/-- Where the rows lack a column in which keys are looked for, no query is sent and every row is
given nothing. -/
theorem loadRelation_of_missing {relation : Relation}
    (hrelation : q.model.relation load.relation = .ok relation)
    (hcolumn : column ∈ relation.kind.keyColumns)
    (hmissing : ∀ row ∈ rows, row.field? column = none) :
    Asking.outcome (loadRelation fetch q load rows) s =
      (.ok (rows.map fun row => row.putField load.relation relation.kind.nothing), s) := by
  obtain ⟨one, hone⟩ | ⟨typeColumn, idColumn, types, hkind⟩ := relation.kind.single_or_morphTo
  · rw [RelationKind.keyColumns_of_single hone] at hcolumn
    obtain rfl := List.mem_singleton.1 hcolumn
    rw [loadRelation_of_single hrelation hone, distinctKeys, distinctKeysFrom_of_missing hmissing,
      RelationKind.nothing_of_single hone]
    refine Asking.outcome_pure_eq_ok.2 ⟨?_, rfl⟩
    simp only [groupBy, List.foldl_nil, groupOf_nil]
  · have hcolumn : column = typeColumn ∨ column = idColumn := by
      simpa [hkind, RelationKind.keyColumns] using hcolumn
    rw [loadRelation_of_morphTo hrelation hkind, fetchTargets_of_missing hcolumn hmissing, hkind]
    refine Asking.outcome_pure_eq_ok.2 ⟨?_, rfl⟩
    simp only [Targets.find_nil, RelationKind.nothing]

end

end Sql
end RelationalQuery
