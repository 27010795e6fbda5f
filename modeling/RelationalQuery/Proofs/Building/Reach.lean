import RelationalQuery.Building.Builder

/-! The states that requests lead a builder to. Any action may stand inside a request that takes
one, as long as it does nothing but make requests in turn. -/
namespace RelationalQuery

variable {σ : Type}

/-- The state an action leaves behind, also where it is refused. -/
def Building.final {α : Type} (x : Building σ α) (s : σ) : σ :=
  match x s with
  | .ok _ t => t
  | .error _ t => t

namespace Building
variable {α β : Type}

theorem final_of_ok {x : Building σ α} {s t : σ} {a : α} (h : x s = .ok a t) :
    x.final s = t := by
  simp only [final, h]

theorem final_of_error {x : Building σ α} {s t : σ} {error : QueryError}
    (h : x s = .error error t) : x.final s = t := by
  simp only [final, h]

theorem bind_of_ok {x : Building σ α} {f : α → Building σ β} {s t : σ} {a : α}
    (h : x s = .ok a t) : (x >>= f) s = f a t := by
  change EStateM.bind x f s = f a t
  simp only [EStateM.bind, h]

theorem bind_of_error {x : Building σ α} {f : α → Building σ β} {s t : σ} {error : QueryError}
    (h : x s = .error error t) : (x >>= f) s = .error error t := by
  change EStateM.bind x f s = _
  simp only [EStateM.bind, h]

theorem bind_eq_ok {x : Building σ α} {f : α → Building σ β} {s t : σ} {b : β} :
    (x >>= f) s = .ok b t ↔ ∃ a r, x s = .ok a r ∧ f a r = .ok b t := by
  cases h : x s with
  | ok a r => simp [bind_of_ok h, and_assoc]
  | error error r => simp [bind_of_error h]

def succeeds (x : Building σ Unit) (s : σ) : Bool :=
  match x s with
  | .ok .. => true
  | .error .. => false

theorem ok_of_succeeds {x : Building σ Unit} {s : σ} (h : x.succeeds s = true) :
    x s = .ok () (x.final s) := by
  unfold succeeds at h
  unfold final
  cases hx : x s with
  | ok _ t => rfl
  | error error t => simp [hx] at h

end Building

namespace Builder
variable (b : Builder σ)

inductive Reaches : σ → σ → Prop where
  | refl (s : σ) : Reaches s s
  | trans {r s t : σ} : Reaches r s → Reaches s t → Reaches r t
  | select (columns : List String) (s : σ) : Reaches s ((b.select columns).final s)
  | orderBy (field : String) (direction : Direction) (s : σ) :
    Reaches s ((b.orderBy field direction).final s)
  | filter (join : Join) (predicate : Predicate) (s : σ) :
    Reaches s ((b.filter join predicate).final s)
  | group (join : Join) {body : Building σ Unit} :
    (∀ r, Reaches r (body.final r)) → ∀ s, Reaches s ((b.group join body).final s)
  | has (join : Join) (relation : String) (types : RelatedTypes) (existence : Existence)
      (operator : String) (count : Json.Value) (s : σ) :
    Reaches s ((b.has join relation types existence operator count).final s)
  | whereHas (join : Join) (relation : String) (types : RelatedTypes) (existence : Existence)
      {body : Building σ Unit} :
    (∀ r, Reaches r (body.final r)) →
      ∀ s, Reaches s ((b.whereHas join relation types existence body).final s)
  | load (loads : List Load) (s : σ) : Reaches s ((b.load loads).final s)
  | countRelated {loads : List (Load × Building σ Unit)} :
    (∀ l ∈ loads, ∀ r, Reaches r (l.2.final r)) →
      ∀ s, Reaches s ((b.countRelated loads).final s)
  | callScope (name : String) (args : List Json.Value) (s : σ) :
    Reaches s ((b.callScope name args).final s)

/-- Every single request leads from a state only to states related to it, if the actions inside
it do. -/
structure Respects (R : σ → σ → Prop) : Prop where
  refl : ∀ s, R s s
  trans : ∀ {r s t}, R r s → R s t → R r t
  select : ∀ columns s, R s ((b.select columns).final s)
  orderBy : ∀ field direction s, R s ((b.orderBy field direction).final s)
  filter : ∀ join predicate s, R s ((b.filter join predicate).final s)
  group : ∀ join {body : Building σ Unit}, (∀ r, R r (body.final r)) →
    ∀ s, R s ((b.group join body).final s)
  has : ∀ join relation types existence operator count s,
    R s ((b.has join relation types existence operator count).final s)
  whereHas : ∀ join relation types existence {body : Building σ Unit},
    (∀ r, R r (body.final r)) →
      ∀ s, R s ((b.whereHas join relation types existence body).final s)
  load : ∀ loads s, R s ((b.load loads).final s)
  countRelated : ∀ {loads : List (Load × Building σ Unit)},
    (∀ l ∈ loads, ∀ r, R r (l.2.final r)) → ∀ s, R s ((b.countRelated loads).final s)
  callScope : ∀ name args s, R s ((b.callScope name args).final s)

variable {b}

theorem Respects.of_reaches {R : σ → σ → Prop} (h : b.Respects R) {s t : σ}
    (hst : b.Reaches s t) : R s t := by
  induction hst with
  | refl s => exact h.refl s
  | trans _ _ ih₁ ih₂ => exact h.trans ih₁ ih₂
  | select columns s => exact h.select columns s
  | orderBy field direction s => exact h.orderBy field direction s
  | filter join predicate s => exact h.filter join predicate s
  | group join _ s ih => exact h.group join ih s
  | has join relation types existence operator count s =>
    exact h.has join relation types existence operator count s
  | whereHas join relation types existence _ s ih =>
    exact h.whereHas join relation types existence ih s
  | load loads s => exact h.load loads s
  | countRelated _ s ih => exact h.countRelated ih s
  | callScope name args s => exact h.callScope name args s

/-- What requests reach is itself such a relation, and by the previous theorem the least. -/
theorem respects_reaches : b.Respects b.Reaches where
  refl := .refl
  trans := .trans
  select := .select
  orderBy := .orderBy
  filter := .filter
  group join _ h := .group join h
  has := .has
  whereHas join relation types existence _ h := .whereHas join relation types existence h
  load := .load
  countRelated h := .countRelated h
  callScope := .callScope

/-! ### Steps -/

theorem Respects.bind {R : σ → σ → Prop} (h : b.Respects R) {α β : Type} {x : Building σ α}
    {f : α → Building σ β} {s : σ} (hx : R s (x.final s))
    (hf : ∀ a t, x s = .ok a t → R t ((f a).final t)) : R s ((x >>= f).final s) := by
  cases hs : x s with
  | ok a t =>
    rw [Building.final_of_ok hs] at hx
    have hb : (x >>= f).final s = (f a).final t := by
      simp only [Building.final, Building.bind_of_ok hs]
    rw [hb]
    exact h.trans hx (hf a t hs)
  | error e t =>
    rw [Building.final_of_error hs] at hx
    rwa [Building.final_of_error (Building.bind_of_error hs)]

variable {R : σ → σ → Prop}

mutual

/-- A step makes requests only. -/
theorem Respects.step (h : b.Respects R) (x : Step) (s : σ) : R s ((b.step x).final s) := by
  match x with
  | .select columns => exact h.select columns s
  | .project selection => exact h.select _ s
  | .orderBy field direction => exact h.orderBy field direction s
  | .filter join predicate => exact h.filter join predicate s
  | .group join body => exact h.group join (fun r => h.run body r) s
  | .has join relation types existence operator count =>
    exact h.has join relation _ existence operator count s
  | .whereHas join relation types existence body =>
    exact h.whereHas join relation _ existence (fun r => h.run body r) s
  | .load loads => exact h.load loads s
  | .countRelated loads => exact h.countRelated (fun l hl r => h.counted loads l hl r) s
  | .callScope name args => exact h.callScope name args s
  | .fail error => exact h.refl s

theorem Respects.run (h : b.Respects R) (steps : List Step) (s : σ) :
    R s ((b.run steps).final s) := by
  match steps with
  | [] => exact h.refl s
  | x :: rest => exact h.bind (h.step x s) fun _ t _ => h.run rest t

theorem Respects.counted (h : b.Respects R) (loads : List Load) :
    ∀ l ∈ b.counted loads, ∀ r, R r (l.2.final r) := by
  match loads with
  | [] => simp [Builder.counted]
  | ⟨relation, counts, body⟩ :: rest =>
    intro l hl r
    rcases List.mem_cons.1 hl with rfl | hl
    · exact h.run body r
    · exact h.counted rest l hl r

end

end Builder
end RelationalQuery
