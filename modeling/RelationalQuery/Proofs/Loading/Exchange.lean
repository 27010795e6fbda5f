import RelationalQuery.Proofs.Loading.Tables
import RelationalQuery.Proofs.Sql.Place

/-! What loading asks a server for. An exchange is one query for related rows with the rows that
came back. The server has a state of any kind, which each query may read and change. -/
namespace RelationalQuery.Sql

open Json (Value)

abbrev Asking (σ : Type) := ExceptT QueryError (StateM σ)

namespace Asking
variable {σ α β : Type}

/-- What an action yields, and the state it leaves the server in. -/
def outcome (x : Asking σ α) (s : σ) : Except QueryError α × σ := x.run.run s

theorem outcome_bind (x : Asking σ α) (f : α → Asking σ β) (s : σ) :
    outcome (x >>= f) s = match outcome x s with
      | (.ok a, t) => outcome (f a) t
      | (.error error, t) => (.error error, t) := by
  simp only [outcome, ExceptT.run_bind, StateT.run_bind]
  generalize StateT.run x.run s = y
  obtain ⟨r, t⟩ := y
  cases r <;> rfl

theorem outcome_bind_eq_ok {x : Asking σ α} {f : α → Asking σ β} {s u : σ} {b : β} :
    outcome (x >>= f) s = (.ok b, u) ↔
      ∃ a t, outcome x s = (.ok a, t) ∧ outcome (f a) t = (.ok b, u) := by
  rw [outcome_bind]
  cases outcome x s with
  | mk r t => cases r <;> simp

theorem outcome_given_eq_ok {x : Except QueryError α} {s t : σ} {a : α} :
    outcome (ExceptT.mk (pure x) : Asking σ α) s = (.ok a, t) ↔ x = .ok a ∧ s = t := by
  change (x, s) = (Except.ok a, t) ↔ _
  simp

theorem outcome_pure_eq_ok {s t : σ} {a b : α} :
    outcome (pure a : Asking σ α) s = (.ok b, t) ↔ a = b ∧ s = t := by
  change (Except.ok a, s) = (Except.ok b, t) ↔ _
  simp

end Asking

structure Wanted where
  /-- What a polymorphic relation calls the model. -/
  tag : Option String := none
  model : String
  /-- The model's primary key unless a column is named. -/
  column : Option String := none
  texts : List String

structure Exchange where
  wanted : Wanted
  query : Query
  found : List Value

namespace Exchange

def column (e : Exchange) : String := e.wanted.column.getD e.query.model.entity.primaryKey

def matching (e : Exchange) (key : Option String) : List Value :=
  e.found.filter fun row => key.isSome && keyOf row e.column == key

/-- The query is for the rows that are wanted: it is the one the load shapes on their model, with
the list of the keys in front of its own conditions. -/
structure IsFor (q : Query) (load : Load) (e : Exchange) : Prop where
  model : q.schema.model e.wanted.model = .ok e.query.model
  keys : ∃ keys rest, q.relatedQuery load e.wanted.model e.column keys = .ok e.query ∧
    e.query.clauses = .and (.oneOf (qualified e.query.model.table e.column) keys false) :: rest ∧
    (∀ clause ∈ rest, clause.join = .and) ∧
    keys.map Value.plainText = e.wanted.texts ∧ ∀ key ∈ keys, key.isNull = false

end Exchange

section
variable {σ : Type} (fetch : Query → Asking σ (List Value))

inductive Sends : σ → List Exchange → σ → Prop where
  | nil (s : σ) : Sends s [] s
  | cons {s t u : σ} {e : Exchange} {rest : List Exchange} :
    Asking.outcome (fetch e.query) s = (.ok e.found, t) → Sends t rest u → Sends s (e :: rest) u

variable {fetch}

theorem Sends.append {s t u : σ} {xs ys : List Exchange} (h : Sends fetch s xs t)
    (h' : Sends fetch t ys u) : Sends fetch s (xs ++ ys) u := by
  induction h with
  | nil s => exact h'
  | cons hfetch _ ih => exact .cons hfetch (ih h')

theorem Query.relatedQuery_eq_ok {q r : Query} {load : Load} {model column : String}
    {keys : List Value} (h : q.relatedQuery load model column keys = .ok r) :
    ∃ related shaped, q.schema.model model = .ok related ∧
      Query.run load.body { schema := q.schema, model := related } = .ok () shaped ∧
      r = (shaped.restrictTo column keys).ensureSelected column := by
  obtain ⟨fresh, hfresh, h⟩ := Except.bind_eq_ok.1 h
  obtain ⟨related, hrelated, hfresh⟩ := Except.bind_eq_ok.1 hfresh
  cases hfresh
  split at h
  · cases h
  · rename_i shaped hshaped
    cases h
    exact ⟨related, shaped, hrelated, hshaped, rfl⟩

theorem Query.ensureSelected_eq (q : Query) (column : String) :
    q.ensureSelected column = { q with columns := (q.ensureSelected column).columns } := by
  unfold Query.ensureSelected
  dsimp only
  split <;> rfl

theorem Query.restrictTo_clauses (q : Query) (column : String) (keys : List Value) :
    ∃ rest, (q.restrictTo column keys).clauses =
        .and (.oneOf (qualified q.model.table column) keys false) :: rest ∧
      ∀ clause ∈ rest, clause.join = .and := by
  unfold Query.restrictTo
  by_cases he : q.clauses.isEmpty
  · exact ⟨[], by simp [he], by simp⟩
  · exact ⟨[.and (.group q.clauses)], by simp [he], by simp [Clause.and, Clause.join]⟩

/-- The related query is over the model asked for, and the keys stand in front. -/
theorem Query.relatedQuery_clauses {q r : Query} {load : Load} {model column : String}
    {keys : List Value} (h : q.relatedQuery load model column keys = .ok r) :
    q.schema.model model = .ok r.model ∧
      ∃ rest, r.clauses = .and (.oneOf (qualified r.model.table column) keys false) :: rest ∧
        ∀ clause ∈ rest, clause.join = .and := by
  obtain ⟨related, shaped, hrelated, hshaped, rfl⟩ := relatedQuery_eq_ok h
  have hmodel := (run_samePlace hshaped).model
  rw [ensureSelected_eq]
  exact ⟨by rw [hrelated]; exact congrArg _ hmodel.symm, restrictTo_clauses shaped column keys⟩

/-- The exchanges behind the rows of one related model: one, or none where no key is wanted. -/
theorem exchanges_of_fetchRelated {q : Query} {load : Load} {rows found : List Value}
    {w : Wanted} {column source : String} {s t : σ}
    (hcolumn : ∀ m, q.schema.model w.model = .ok m → w.column.getD m.entity.primaryKey = column)
    (htexts : w.texts = keyTexts rows source)
    (h : Asking.outcome
      (fetchRelated fetch q load w.model column (distinctKeys rows source)) s = (.ok found, t)) :
    ∃ exchanges, Sends fetch s exchanges t ∧
      exchanges.map (·.wanted) = [w].filter (fun w => !w.texts.isEmpty) ∧
      (∀ e ∈ exchanges, e.IsFor q load ∧ e.column = column) ∧
      exchanges.flatMap (·.found) = found := by
  -- There are texts exactly if there are keys.
  have hkeys := map_plainText_distinctKeys rows source
  rw [← htexts] at hkeys
  unfold fetchRelated at h
  by_cases hempty : (distinctKeys rows source).isEmpty
  · rw [if_pos hempty] at h
    obtain ⟨rfl, rfl⟩ := Asking.outcome_pure_eq_ok.1 h
    rw [List.isEmpty_iff.1 hempty] at hkeys
    exact ⟨[], .nil s, by simp [← hkeys], by simp, rfl⟩
  · rw [if_neg hempty] at h
    obtain ⟨query, s', hgiven, h⟩ := Asking.outcome_bind_eq_ok.1 h
    obtain ⟨hquery, rfl⟩ := Asking.outcome_given_eq_ok.1 hgiven
    obtain ⟨hmodel, rest, hclauses, hrest⟩ := Query.relatedQuery_clauses hquery
    have hne : w.texts.isEmpty = false := by
      rw [← hkeys, List.isEmpty_map]
      simpa using hempty
    let e : Exchange := ⟨w, query, found⟩
    have he : e.column = column := hcolumn query.model hmodel
    refine ⟨[e], .cons h (.nil t), by simp [e, hne], ?_, by simp [e]⟩
    intro e' hmem
    rw [List.mem_singleton.1 hmem]
    refine ⟨⟨hmodel, distinctKeys rows source, rest, ?_, ?_, hrest, hkeys, ?_⟩, he⟩
    · rwa [he]
    · rwa [he]
    · exact fun key hkey => (mem_distinctKeysFrom hkey).1

end

end RelationalQuery.Sql
