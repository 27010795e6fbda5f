import RelationalQuery.Proofs.Loading.Exchange

/-! Loading as a join. The hash tables that match rows with related rows give what a scan of all
related rows for each row gives. -/
namespace RelationalQuery

open Json
open Sql

def RelationKind.related (rows : List Value) : RelationKind → List Wanted
  | .hasMany model foreignKey localKey | .hasOne model foreignKey localKey =>
    [{ model, column := some foreignKey, texts := keyTexts rows localKey }]
  | .belongsTo model foreignKey ownerKey =>
    [{ model, column := some ownerKey, texts := keyTexts rows foreignKey }]
  | .morphTo typeColumn idColumn types => types.map fun (tag, model) =>
    { tag := some tag, model,
      texts := keyTexts (rows.filter fun row => keyOf row typeColumn == some tag) idColumn }

def RelationKind.wanted (rows : List Value) (kind : RelationKind) : List Wanted :=
  (kind.related rows).filter fun w => !w.texts.isEmpty

/-- A relation to one model: by which columns its rows and those it is for meet, and what a row gets
of the ones it meets. -/
structure Single where
  model : String
  column : String
  source : String
  value : List Value → Value

def RelationKind.single : RelationKind → Option Single
  | .hasMany model foreignKey localKey => some ⟨model, foreignKey, localKey, .arr⟩
  | .hasOne model foreignKey localKey => some ⟨model, foreignKey, localKey, firstOrNull⟩
  | .belongsTo model foreignKey ownerKey => some ⟨model, ownerKey, foreignKey, firstOrNull⟩
  | .morphTo .. => none

theorem RelationKind.single_or_morphTo (kind : RelationKind) :
    (∃ one, kind.single = some one) ∨
      ∃ typeColumn idColumn types, kind = .morphTo typeColumn idColumn types := by
  cases kind with
  | morphTo typeColumn idColumn types => exact .inr ⟨typeColumn, idColumn, types, rfl⟩
  | _ => exact .inl ⟨_, rfl⟩

theorem RelationKind.related_of_single {kind : RelationKind} {one : Single}
    (h : kind.single = some one) (rows : List Value) :
    kind.related rows =
      [{ model := one.model, column := some one.column, texts := keyTexts rows one.source }] := by
  cases kind <;> cases h <;> rfl

namespace Sql

/-- What a relation is for a row, by a scan of all that was found. -/
def joined (kind : RelationKind) (exchanges : List Exchange) (row : Value) : Value :=
  match kind with
  | .hasMany _ _ localKey => .arr (exchanges.flatMap (·.matching (keyOf row localKey)))
  | .hasOne _ _ localKey =>
    (exchanges.flatMap (·.matching (keyOf row localKey))).head?.getD .null
  | .belongsTo _ foreignKey _ =>
    (exchanges.flatMap (·.matching (keyOf row foreignKey))).head?.getD .null
  | .morphTo typeColumn idColumn _ =>
    ((exchanges.filter (·.wanted.tag == keyOf row typeColumn)).flatMap
      (·.matching (keyOf row idColumn))).getLast?.getD .null

/-- An object has the value under the name, and its other fields as they were, in their order. What
is no object is left alone. -/
def Attached (name : String) (value : Value) : Value → Value → Prop
  | .obj fields, row => ∃ fields', row = .obj fields' ∧ Fields.get? fields' name = some value ∧
      fields'.filter (·.1 ≠ name) = fields.filter (·.1 ≠ name)
  | other, row => row = other

theorem filter_put (fields : List (String × Value)) (name : String) (value : Value) :
    (Fields.put fields name value).filter (·.1 ≠ name) = fields.filter (·.1 ≠ name) := by
  induction fields with
  | nil => simp [Fields.put]
  | cons field rest ih =>
    obtain ⟨k, v⟩ := field
    by_cases h : k = name
    · simp [Fields.put, h]
    · simp only [Fields.put, h, if_false, List.filter_cons, ih]

theorem attached_putField (name : String) (value row : Value) :
    Attached name value row (row.putField name value) := by
  cases row with
  | obj fields =>
    exact ⟨Fields.put fields name value, rfl, Fields.get?_put_self fields name value,
      filter_put fields name value⟩
  | _ => rfl

theorem groupOf_groupBy_eq_filter (column : String) (rows : List Value) (key : Option String) :
    groupOf (groupBy column rows) key =
      rows.filter fun row => key.isSome && keyOf row column == key := by
  cases key with
  | none => simp [groupOf_none]
  | some key => simp [groupOf_groupBy]

theorem firstOrNull_eq (rows : List Value) : firstOrNull rows = rows.head?.getD .null := by
  cases rows <;> rfl

theorem joined_of_single {kind : RelationKind} {one : Single} (h : kind.single = some one)
    (exchanges : List Exchange) (row : Value) :
    joined kind exchanges row =
      one.value (exchanges.flatMap (·.matching (keyOf row one.source))) := by
  cases kind <;> cases h <;> simp only [joined, firstOrNull_eq]

section
variable {exchanges : List Exchange} {column : String}

theorem flatMap_matching (h : ∀ e ∈ exchanges, e.column = column) (key : Option String) :
    exchanges.flatMap (·.matching key) =
      (exchanges.flatMap (·.found)).filter fun row => key.isSome && keyOf row column == key := by
  rw [List.filter_flatMap]
  refine List.flatMap_congr fun e he => ?_
  rw [Exchange.matching, h e he]

theorem flatMap_matching_of_tag {tag : String} (h : ∀ e ∈ exchanges, e.column = column)
    (htag : ∀ e ∈ exchanges, e.wanted.tag = some tag) (tag' key : String) :
    (exchanges.filter (·.wanted.tag == some tag')).flatMap (·.matching (some key)) =
      (exchanges.flatMap (·.found)).filter fun row =>
        tag == tag' && keyOf row column == some key := by
  by_cases heq : tag = tag'
  · have hall : exchanges.filter (·.wanted.tag == some tag') = exchanges :=
      List.filter_eq_self.2 fun e he => by simp [htag e he, heq]
    rw [hall, flatMap_matching h]
    simp [heq]
  · have hnone : exchanges.filter (·.wanted.tag == some tag') = [] :=
      List.filter_eq_nil_iff.2 fun e he => by simp [htag e he, heq]
    simp [hnone, heq]

end

section
variable {m : Type → Type} [Monad m] [LawfulMonad m]
  {fetch : Query → ExceptT QueryError m (List Value)} {q : Query} {load : Load} {rows : List Value}
  {relation : Relation}

/-- A relation to one model asks for the rows and gives each row its share of them. -/
theorem loadRelation_of_single {one : Single}
    (hrelation : q.model.relation load.relation = .ok relation)
    (h : relation.kind.single = some one) :
    loadRelation fetch q load rows =
      fetchRelated fetch q load one.model one.column (distinctKeys rows one.source) >>= fun found =>
        pure (rows.map fun row => row.putField load.relation
          (one.value (groupOf (groupBy one.column found) (keyOf row one.source)))) := by
  obtain ⟨name, kind⟩ := relation
  unfold loadRelation
  rw [hrelation]
  refine (pure_bind (m := ExceptT QueryError m) ..).trans ?_
  cases kind <;> cases h <;> rfl

theorem loadRelation_of_morphTo {typeColumn idColumn : String} {types : List (String × String)}
    (hrelation : q.model.relation load.relation = .ok relation)
    (h : relation.kind = .morphTo typeColumn idColumn types) :
    loadRelation fetch q load rows =
      types.foldlM (fetchTargets fetch q load typeColumn idColumn rows) [] >>= fun targets =>
        pure (rows.map fun row => row.putField load.relation
          (targets.find (keyOf row typeColumn) (keyOf row idColumn))) := by
  obtain ⟨name, kind⟩ := relation
  cases h
  unfold loadRelation
  rw [hrelation]
  exact pure_bind (m := ExceptT QueryError m) ..

end

section
variable {σ : Type} {fetch : Query → Asking σ (List Value)} {q : Query} {load : Load}
  {rows : List Value} {typeColumn idColumn : String} {s t : σ}

/-- The targets of one type add one exchange, or none where no row has a key of that type. -/
theorem exchanges_of_fetchTargets {targets found : Targets} {type : String × String}
    (h : Asking.outcome (fetchTargets fetch q load typeColumn idColumn rows targets type) s =
      (.ok found, t)) :
    ∃ exchanges, Sends fetch s exchanges t ∧
      exchanges.map (·.wanted) =
        (RelationKind.morphTo typeColumn idColumn [type]).wanted rows ∧
      (∀ e ∈ exchanges, e.IsFor q load) ∧
      ∀ tag key, found.get? tag key =
        ((exchanges.filter (·.wanted.tag == some tag)).flatMap
          (·.matching (some key))).getLast?.or (targets.get? tag key) := by
  obtain ⟨tag, model⟩ := type
  let ofType := rows.filter fun row => keyOf row typeColumn == some tag
  let w : Wanted := { tag := some tag, model, texts := keyTexts ofType idColumn }
  have hwanted : (RelationKind.morphTo typeColumn idColumn [(tag, model)]).wanted rows =
      [w].filter fun w => !w.texts.isEmpty := rfl
  have hkeys := map_plainText_distinctKeys ofType idColumn
  unfold fetchTargets at h
  dsimp only at h
  by_cases hempty : (distinctKeys ofType idColumn).isEmpty
  · rw [if_pos hempty] at h
    obtain ⟨rfl, rfl⟩ := Asking.outcome_pure_eq_ok.1 h
    rw [List.isEmpty_iff.1 hempty] at hkeys
    exact ⟨[], .nil s, by simp [hwanted, w, ← hkeys], by simp, by simp⟩
  · rw [if_neg hempty] at h
    obtain ⟨target, s₁, hgiven, h⟩ := Asking.outcome_bind_eq_ok.1 h
    obtain ⟨htarget, rfl⟩ := Asking.outcome_given_eq_ok.1 hgiven
    obtain ⟨answer, s₂, hanswer, h⟩ := Asking.outcome_bind_eq_ok.1 h
    obtain ⟨rfl, rfl⟩ := Asking.outcome_pure_eq_ok.1 h
    have hcolumn : ∀ m, q.schema.model w.model = .ok m →
        w.column.getD m.entity.primaryKey = target.entity.primaryKey := by
      intro m hm
      rw [htarget] at hm
      cases hm
      rfl
    obtain ⟨exchanges, hsends, hmap, hfor, rfl⟩ := exchanges_of_fetchRelated hcolumn rfl hanswer
    refine ⟨exchanges, hsends, hmap, fun e he => (hfor e he).1, fun tag' key => ?_⟩
    have htag : ∀ e ∈ exchanges, e.wanted.tag = some tag := by
      intro e he
      have hmem := List.mem_map_of_mem (f := (·.wanted)) he
      rw [hmap] at hmem
      rw [List.mem_singleton.1 (List.mem_of_mem_filter hmem)]
    rw [Targets.get?_foldl_add,
      flatMap_matching_of_tag (fun e he => (hfor e he).2) htag tag' key]

theorem exchanges_of_foldlM {types : List (String × String)} {targets found : Targets}
    (h : Asking.outcome (types.foldlM (fetchTargets fetch q load typeColumn idColumn rows) targets)
      s = (.ok found, t)) :
    ∃ exchanges, Sends fetch s exchanges t ∧
      exchanges.map (·.wanted) = (RelationKind.morphTo typeColumn idColumn types).wanted rows ∧
      (∀ e ∈ exchanges, e.IsFor q load) ∧
      ∀ tag key, found.get? tag key =
        ((exchanges.filter (·.wanted.tag == some tag)).flatMap
          (·.matching (some key))).getLast?.or (targets.get? tag key) := by
  induction types generalizing targets s with
  | nil =>
    obtain ⟨rfl, rfl⟩ := Asking.outcome_pure_eq_ok.1 h
    exact ⟨[], .nil s, rfl, by simp, by simp⟩
  | cons type rest ih =>
    rw [List.foldlM_cons] at h
    obtain ⟨targets', s', hfirst, h⟩ := Asking.outcome_bind_eq_ok.1 h
    obtain ⟨xs, hsends, hmap, hfor, hget⟩ := exchanges_of_fetchTargets hfirst
    obtain ⟨ys, hsends', hmap', hfor', hget'⟩ := ih h
    -- What a later type finds takes the place of what was found before.
    refine ⟨xs ++ ys, hsends.append hsends', ?_, ?_, fun tag key => ?_⟩
    · rw [List.map_append, hmap, hmap', RelationKind.wanted, RelationKind.wanted,
        ← List.filter_append]
      rfl
    · intro e he
      exact (List.mem_append.1 he).elim (hfor e) (hfor' e)
    · rw [hget', hget, List.filter_append, List.flatMap_append, List.getLast?_append,
        Option.or_assoc]

theorem tag_ne_none_of_wanted {exchanges : List Exchange} {types : List (String × String)}
    (h : exchanges.map (·.wanted) = (RelationKind.morphTo typeColumn idColumn types).wanted rows) :
    ∀ e ∈ exchanges, e.wanted.tag ≠ none := by
  intro e he
  have hmem := List.mem_map_of_mem (f := (·.wanted)) he
  rw [h] at hmem
  obtain ⟨⟨tag, model⟩, -, hwanted⟩ := List.mem_map.1 (List.mem_of_mem_filter hmem)
  rw [← hwanted]
  exact Option.some_ne_none tag

/-- A target is found where a row has both a tag and a key. -/
theorem find_eq_joined {exchanges : List Exchange} {targets : Targets}
    {types : List (String × String)} (htag : ∀ e ∈ exchanges, e.wanted.tag ≠ none)
    (hget : ∀ tag key, targets.get? tag key =
      ((exchanges.filter (·.wanted.tag == some tag)).flatMap
        (·.matching (some key))).getLast?) (row : Value) :
    targets.find (keyOf row typeColumn) (keyOf row idColumn) =
      joined (.morphTo typeColumn idColumn types) exchanges row := by
  simp only [joined]
  cases htype : keyOf row typeColumn with
  | none =>
    have hnone : exchanges.filter (·.wanted.tag == none) = [] :=
      List.filter_eq_nil_iff.2 fun e he => by simpa using htag e he
    rw [hnone]
    rfl
  | some tag =>
    cases hid : keyOf row idColumn with
    | none =>
      have hnothing : (exchanges.filter (·.wanted.tag == some tag)).flatMap (·.matching none) =
          [] := List.flatMap_eq_nil_iff.2 fun e _ => by simp [Exchange.matching]
      rw [hnothing]
      rfl
    | some key => rw [Targets.find_some, hget]

theorem forall₂_attached {name : String} {value value' : Value → Value} (rows : List Value)
    (h : ∀ row, value row = value' row) :
    List.Forall₂ (fun row row' => Attached name (value' row) row row') rows
      (rows.map fun row => row.putField name (value row)) := by
  rw [List.forall₂_map_right_iff, List.forall₂_same]
  intro row _
  rw [h row]
  exact attached_putField name (value' row) row

/-- Loading a relation joins each row with what the queries find. -/
theorem joins_of_loadRelation {rows' : List Value}
    (h : Asking.outcome (loadRelation fetch q load rows) s = (.ok rows', t)) :
    ∃ relation exchanges, q.model.relation load.relation = .ok relation ∧
      Sends fetch s exchanges t ∧
      exchanges.map (·.wanted) = relation.kind.wanted rows ∧
      (∀ e ∈ exchanges, e.IsFor q load) ∧
      List.Forall₂ (fun row row' =>
        Attached load.relation (joined relation.kind exchanges row) row row') rows rows' := by
  obtain ⟨relation, s₁, hgiven, -⟩ := Asking.outcome_bind_eq_ok.1 h
  obtain ⟨hrelation, -⟩ := Asking.outcome_given_eq_ok.1 hgiven
  obtain ⟨one, hone⟩ | ⟨typeColumn, idColumn, types, hkind⟩ := relation.kind.single_or_morphTo
  · rw [loadRelation_of_single hrelation hone] at h
    obtain ⟨found, s₂, hfound, h⟩ := Asking.outcome_bind_eq_ok.1 h
    obtain ⟨rfl, rfl⟩ := Asking.outcome_pure_eq_ok.1 h
    let w : Wanted :=
      { model := one.model, column := some one.column, texts := keyTexts rows one.source }
    obtain ⟨exchanges, hsends, hmap, hfor, rfl⟩ :=
      exchanges_of_fetchRelated (w := w) (fun _ _ => rfl) rfl hfound
    refine ⟨relation, exchanges, hrelation, hsends, ?_, fun e he => (hfor e he).1, ?_⟩
    · rw [hmap, RelationKind.wanted, RelationKind.related_of_single hone]
    · refine forall₂_attached rows fun row => ?_
      rw [joined_of_single hone, groupOf_groupBy_eq_filter,
        flatMap_matching fun e he => (hfor e he).2]
  · rw [loadRelation_of_morphTo hrelation hkind] at h
    obtain ⟨targets, s₂, htargets, h⟩ := Asking.outcome_bind_eq_ok.1 h
    obtain ⟨rfl, rfl⟩ := Asking.outcome_pure_eq_ok.1 h
    obtain ⟨exchanges, hsends, hmap, hfor, hget⟩ := exchanges_of_foldlM htargets
    have htag := tag_ne_none_of_wanted hmap
    have hget := fun tag key => (hget tag key).trans Option.or_none
    refine ⟨relation, exchanges, hrelation, hsends, ?_, hfor, ?_⟩
    · rw [hkind, hmap]
    · rw [hkind]
      exact forall₂_attached rows (find_eq_joined htag hget)

end

/-! ### A join over three rows -/

def authors : Schema :=
  { models := [
      { entity := { name := "User", table := "users" }
        relations := [⟨"posts", .hasMany "Post" "user_id" "id"⟩] },
      { entity := { name := "Post", table := "posts" }
        relations := [⟨"author", .belongsTo "User" "user_id" "id"⟩] }] }

def allAuthors : Query := { schema := authors, model := authors.models[0] }

def answering (answer : List Value) (query : Query) : Asking (List Query) (List Value) := do
  modify (· ++ [query])
  return answer

def authorRows : List Value :=
  [.obj [("id", .str "1"), ("name", .str "a")], .obj [("id", .null)], .obj [("id", .num (.int 1))]]

def postRows : List Value :=
  [.obj [("user_id", .num (.int 1))], .obj [("user_id", .null)], .obj [("user_id", .str "1")],
    .obj [("user_id", .num (.int 2))]]

def postsLoad : Load := ⟨"posts", false, []⟩

def postsQuery : Query :=
  { schema := authors, model := authors.models[1]
    clauses := [.and (.oneOf "posts.user_id" [.str "1"] false)] }

def joinedRows : List Value :=
  let posts := .arr [.obj [("user_id", .num (.int 1))], .obj [("user_id", .str "1")]]
  [.obj [("id", .str "1"), ("name", .str "a"), ("posts", posts)],
    .obj [("id", .null), ("posts", .arr [])], .obj [("id", .num (.int 1)), ("posts", posts)]]

/-- Keys meet by their text, and null meets no null. -/
theorem joins_authorRows :
    Asking.outcome (loadRelation (answering postRows) allAuthors postsLoad authorRows) [] =
        (.ok joinedRows, [postsQuery]) ∧
      ∃ relation exchanges, allAuthors.model.relation "posts" = .ok relation ∧
        Sends (answering postRows) [] exchanges [postsQuery] ∧
        exchanges.map (·.wanted) = relation.kind.wanted authorRows ∧
        (∀ e ∈ exchanges, e.IsFor allAuthors postsLoad) ∧
        List.Forall₂ (fun row row' =>
          Attached "posts" (joined relation.kind exchanges row) row row')
          authorRows joinedRows := by
  have hrun : Asking.outcome
      (loadRelation (answering postRows) allAuthors postsLoad authorRows) [] =
        (.ok joinedRows, [postsQuery]) := rfl
  exact ⟨hrun, joins_of_loadRelation hrun⟩

end Sql
end RelationalQuery
