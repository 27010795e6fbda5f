import RelationalQuery.Proofs.Loading.Columns
import RelationalQuery.Sql.Executor

/-! The order of loading. Loads whose names are not those of columns in which the others find their
keys do not see each other. On a server that answers a text the same way each time they may be
carried out in any order. -/
namespace RelationalQuery.Sql

open Json

variable {q : Query} {a b : Load} {row row' : Value} {rows rows' : List Value}

/-! ### Rows that agree on every column -/

abbrev Same : Value → Value → Prop := Agree fun _ => True

theorem Same.trans {row'' : Value} (h : Same row row') (h' : Same row' row'') :
    Same row row'' := by
  cases h with
  | same row => exact h'
  | obj hfields =>
    cases h' with
    | same row => exact .obj hfields
    | obj hfields' => exact .obj fun c hc => (hfields c hc).trans (hfields' c hc)

theorem forall₂_trans {rows'' : List Value} (h : List.Forall₂ Same rows rows')
    (h' : List.Forall₂ Same rows' rows'') : List.Forall₂ Same rows rows'' := by
  induction h generalizing rows'' with
  | nil => exact h'
  | cons hrow _ ih =>
    cases h' with
    | cons hrow' h' => exact .cons (hrow.trans hrow') (ih h')

/-- Fields of different names may be put in any order. -/
theorem same_putField_comm {name name' : String} (h : name ≠ name') (row value value' : Value) :
    Same ((row.putField name value).putField name' value')
      ((row.putField name' value').putField name value) := by
  cases row with
  | obj fields =>
    refine .obj fun c _ => ?_
    by_cases hc : name = c
    · subst hc
      rw [Fields.get?_put_of_ne _ _ h.symm, Fields.get?_put_self, Fields.get?_put_self]
    · rw [Fields.get?_put_of_ne (Fields.put fields name' value') _ hc]
      by_cases hc' : name' = c
      · subst hc'
        rw [Fields.get?_put_self, Fields.get?_put_self]
      · rw [Fields.get?_put_of_ne _ _ hc', Fields.get?_put_of_ne _ _ hc',
          Fields.get?_put_of_ne _ _ hc]
  | _ => exact .same _

/-- A field is not seen by whoever reads others. -/
theorem agree_putField (row : Value) (name : String) (value : Value) :
    Agree (· ≠ name) row (row.putField name value) := by
  cases row with
  | obj fields => exact .obj fun c hc => (Fields.get?_put_of_ne fields value hc.symm).symm
  | _ => exact .same _

inductive SameRows :
    Except QueryError (List Value) → Except QueryError (List Value) → Prop where
  | rows {rows rows' : List Value} (h : List.Forall₂ Same rows rows') :
      SameRows (.ok rows) (.ok rows')
  | refused (error error' : QueryError) : SameRows (.error error) (.error error')

namespace SameRows
variable {x y z : Except QueryError (List Value)}

theorem refl (x : Except QueryError (List Value)) : SameRows x x := by
  cases x with
  | error error => exact .refused error error
  | ok rows => exact .rows (List.forall₂_same.2 fun row _ => .same row)

theorem trans (h : SameRows x y) (h' : SameRows y z) : SameRows x z := by
  cases h with
  | refused error _ =>
    cases h' with
    | refused _ error' => exact .refused error error'
  | rows h =>
    cases h' with
    | rows h' => exact .rows (forall₂_trans h h')

theorem bind {f g : List Value → Except QueryError (List Value)} (h : SameRows x y)
    (hnext : ∀ rows rows', List.Forall₂ Same rows rows' → SameRows (f rows) (g rows')) :
    SameRows (x >>= f) (y >>= g) := by
  cases h with
  | refused error error' => exact .refused error error'
  | rows h => exact hnext _ _ h

end SameRows

/-! ### Loads that do not see each other -/

/-- Neither load is given under the name of a column in which the other finds keys, nor under the
name of the other. -/
structure Independent (q : Query) (a b : Load) : Prop where
  names : a.relation ≠ b.relation
  left : KeysIn q a (· ≠ b.relation)
  right : KeysIn q b (· ≠ a.relation)

theorem Independent.symm (h : Independent q a b) : Independent q b a :=
  ⟨h.names.symm, h.right, h.left⟩

section
variable {m : Type → Type} [Monad m] [LawfulMonad m]
  (fetch : Query → ExceptT QueryError m (List Value))

/-- What a load gives to rows it gives to them also after a field was put that it does not read. -/
theorem exists_gift (hb : KeysIn q b (· ≠ a.relation)) (rows : List Value) :
    ∃ gift : ExceptT QueryError m (Value → Value),
      loadRelation fetch q b rows = (gift >>= fun give =>
        pure (rows.map fun row => row.putField b.relation (give row))) ∧
      ∀ value : Value → Value,
        loadRelation fetch q b (rows.map fun row => row.putField a.relation (value row)) =
          gift >>= fun give => pure (rows.map fun row =>
            (row.putField a.relation (value row)).putField b.relation (give row)) := by
  obtain ⟨columns, lookup, hload, hread⟩ := exists_lookup fetch q b
  obtain ⟨hcolumns, hlookup⟩ := hread _ hb
  refine ⟨lookup rows >>= fun give => pure fun row => give (columns.map (keyOf row)), ?_,
    fun value => ?_⟩
  · simp only [hload, bind_assoc, pure_bind]
  · have hagree : List.Forall₂ (Agree (· ≠ a.relation)) rows
        (rows.map fun row => row.putField a.relation (value row)) := by
      rw [List.forall₂_map_right_iff]
      exact List.forall₂_same.2 fun row _ => agree_putField row a.relation (value row)
    have hkeys (row : Value) :
        columns.map (keyOf (row.putField a.relation (value row))) = columns.map (keyOf row) :=
      ((agree_putField row a.relation (value row)).map_keyOf_eq hcolumns).symm
    simp only [hload, ← hlookup _ _ hagree, bind_assoc, pure_bind, List.map_map,
      Function.comp_def, hkeys]

/-- Two independent loads give the same in both orders, whichever asks first. -/
theorem exists_gifts (h : Independent q a b) (rows : List Value) :
    ∃ gift gift' : ExceptT QueryError m (Value → Value),
      loadAll fetch q [a, b] rows = (gift >>= fun give => gift' >>= fun give' =>
        pure (rows.map fun row =>
          (row.putField a.relation (give row)).putField b.relation (give' row))) ∧
      loadAll fetch q [b, a] rows = gift' >>= fun give' => gift >>= fun give =>
        pure (rows.map fun row =>
          (row.putField b.relation (give' row)).putField a.relation (give row)) := by
  obtain ⟨gift, hgift, hafter⟩ := exists_gift fetch h.left rows
  obtain ⟨gift', hgift', hafter'⟩ := exists_gift fetch h.right rows
  refine ⟨gift, gift', ?_, ?_⟩
  · simp only [loadAll, hgift, hafter', bind_assoc, pure_bind, bind_pure]
  · simp only [loadAll, hgift', hafter, bind_assoc, pure_bind, bind_pure]

end

/-! ### Servers that are functions of the text -/

section
variable {fetch : Query → ExceptT QueryError Id (List Value)}

/-- What loading comes to where every query has one answer. -/
def loaded (fetch : Query → ExceptT QueryError Id (List Value)) (q : Query) (loads : List Load)
    (rows : List Value) : Except QueryError (List Value) :=
  (loadAll fetch q loads rows).run.run

theorem run_bind {α β : Type} (x : ExceptT QueryError Id α) (f : α → ExceptT QueryError Id β) :
    (x >>= f).run.run = x.run.run >>= fun a => (f a).run.run := by
  rw [ExceptT.run_bind, Id.run_bind]
  cases x.run.run <;> rfl

theorem loaded_cons (load : Load) (rest : List Load) (rows : List Value) :
    loaded fetch q (load :: rest) rows =
      (loadRelation fetch q load rows).run.run >>= loaded fetch q rest :=
  run_bind ..

theorem loaded_append (loads rest : List Load) (rows : List Value) :
    loaded fetch q (loads ++ rest) rows = loaded fetch q loads rows >>= loaded fetch q rest := by
  induction loads generalizing rows with
  | nil => rfl
  | cons load loads ih =>
    rw [List.cons_append, loaded_cons, loaded_cons, bind_assoc]
    exact congrArg _ (funext ih)

/-- Rows that agree stay so. -/
theorem sameRows_loaded (loads : List Load) (h : List.Forall₂ Same rows rows') :
    SameRows (loaded fetch q loads rows) (loaded fetch q loads rows') := by
  induction loads generalizing rows rows' with
  | nil => exact .rows h
  | cons load rest ih =>
    rw [loaded_cons, loaded_cons]
    refine SameRows.bind ?_ fun _ _ => ih
    obtain ⟨columns, lookup, hload, hread⟩ := exists_lookup fetch q load
    obtain ⟨hcolumns, hlookup⟩ := hread (fun _ => True) fun _ _ _ _ => trivial
    rw [hload, hload, hlookup rows rows' h, run_bind, run_bind]
    cases (lookup rows').run.run with
    | error error => exact .refused error error
    | ok give =>
      refine .rows ((forall₂_putField h load.relation fun row row' hrow => ?_).imp
        fun _ _ hrow => hrow.mono fun _ _ => .inl trivial)
      rw [hrow.map_keyOf_eq hcolumns]

theorem sameRows_pair (h : Independent q a b) (rows : List Value) :
    SameRows (loaded fetch q [a, b] rows) (loaded fetch q [b, a] rows) := by
  obtain ⟨gift, gift', hab, hba⟩ := exists_gifts fetch h rows
  rw [loaded, loaded, hab, hba]
  simp only [run_bind]
  cases gift.run.run with
  | error error =>
    cases gift'.run.run with
    | error error' => exact .refused error error'
    | ok give' => exact .refused error error
  | ok give =>
    cases gift'.run.run with
    | error error' => exact .refused error' error'
    | ok give' =>
      refine .rows ?_
      rw [List.forall₂_map_left_iff, List.forall₂_map_right_iff]
      exact List.forall₂_same.2 fun row _ =>
        same_putField_comm h.names row (give row) (give' row)

/-- Loads that are independent of each other may be carried out in any order. -/
theorem sameRows_perm {loads loads' : List Load} (hperm : loads.Perm loads')
    (h : loads.Pairwise (Independent q)) (rows : List Value) :
    SameRows (loaded fetch q loads rows) (loaded fetch q loads' rows) := by
  induction hperm generalizing rows with
  | nil => exact .refl _
  | cons load _ ih =>
    rw [loaded_cons, loaded_cons]
    refine (SameRows.refl _).bind fun between between' hbetween => ?_
    exact (ih h.of_cons between).trans (sameRows_loaded _ hbetween)
  | swap a b rest =>
    have hpair : Independent q b a := List.rel_of_pairwise_cons h List.mem_cons_self
    change SameRows (loaded fetch q ([b, a] ++ rest) rows) (loaded fetch q ([a, b] ++ rest) rows)
    rw [loaded_append, loaded_append]
    exact (sameRows_pair hpair rows).bind fun _ _ => sameRows_loaded rest
  | trans hfirst _ ih ih' =>
    have h' := (hfirst.pairwise_iff fun h => h.symm).1 h
    exact (ih h rows).trans (ih' h' rows)

end

/-- Two independent loads are refused alike in both orders, and give every row the same under every
name. -/
theorem sameRows_independent (server : Server Id) (depth : Nat) (q : Query) (a b : Load)
    (rows : List Value) (h : Independent q a b) :
    SameRows (loaded (fetchRows server depth) q [a, b] rows)
      (loaded (fetchRows server depth) q [b, a] rows) :=
  sameRows_pair h rows

/-! ### The author of a post and its comments -/

def discussion : Schema :=
  { models := [
      { entity := { name := "Post", table := "posts" }
        relations := [⟨"author", .belongsTo "User" "user_id" "id"⟩,
          ⟨"comments", .hasMany "Comment" "post_id" "id"⟩] },
      { entity := { name := "User", table := "users" } },
      { entity := { name := "Comment", table := "comments" } }] }

def discussedPosts : Query := { schema := discussion, model := discussion.models[0] }

def authorLoad : Load := ⟨"author", false, []⟩

def commentsLoad : Load := ⟨"comments", false, []⟩

def postRow : Value := .obj [("id", .num (.int 1)), ("user_id", .num (.int 7))]

def foundRow : Value := .obj [("id", .num (.int 7)), ("post_id", .num (.int 1))]

def oneRowServer : Server Id where
  rows _ := pure [foundRow]
  count _ := pure 1

/-- Only the order of the fields depends on which load comes first. -/
theorem sameRows_discussion :
    Independent discussedPosts authorLoad commentsLoad ∧
    loaded (fetchRows oneRowServer 1) discussedPosts [authorLoad, commentsLoad] [postRow] =
      .ok [(postRow.putField "author" foundRow).putField "comments" (.arr [foundRow])] ∧
    loaded (fetchRows oneRowServer 1) discussedPosts [commentsLoad, authorLoad] [postRow] =
      .ok [(postRow.putField "comments" (.arr [foundRow])).putField "author" foundRow] ∧
    SameRows (loaded (fetchRows oneRowServer 1) discussedPosts [authorLoad, commentsLoad] [postRow])
      (loaded (fetchRows oneRowServer 1) discussedPosts [commentsLoad, authorLoad] [postRow]) := by
  have hindependent : Independent discussedPosts authorLoad commentsLoad := by
    refine ⟨by decide, ?_, ?_⟩
    · rintro relation ⟨⟩
      decide
    · rintro relation ⟨⟩
      decide
  exact ⟨hindependent, by rfl, by rfl, sameRows_independent oneRowServer 1 discussedPosts authorLoad
    commentsLoad [postRow] hindependent⟩

end RelationalQuery.Sql
