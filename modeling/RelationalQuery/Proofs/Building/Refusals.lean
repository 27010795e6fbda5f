import RelationalQuery.Building.Recorder
import RelationalQuery.Proofs.Building.Reach

/-! Steps that are refused by every builder. A builder whose own requests are never refused carries
out all steps but those with a failure inside, and some such builder carries out no others. -/
namespace RelationalQuery

variable {σ : Type}

def Building.Total {α : Type} (x : Building σ α) : Prop := ∀ s, ∃ a t, x s = .ok a t

theorem Building.Total.bind {α β : Type} {x : Building σ α} {f : α → Building σ β} (hx : x.Total)
    (hf : ∀ a, (f a).Total) : (x >>= f).Total := by
  intro s
  obtain ⟨a, t, hs⟩ := hx s
  obtain ⟨b, u, ht⟩ := hf a t
  exact ⟨b, u, by rw [Building.bind_of_ok hs, ht]⟩

theorem Building.total_modify (f : σ → σ) : (modify f : Building σ Unit).Total :=
  fun s => ⟨(), f s, rfl⟩

/-- A builder of which no request is refused, unless an action inside it is. -/
structure Builder.Unfailing (b : Builder σ) : Prop where
  select : ∀ columns, (b.select columns).Total
  orderBy : ∀ field direction, (b.orderBy field direction).Total
  filter : ∀ join predicate, (b.filter join predicate).Total
  group : ∀ join {body : Building σ Unit}, body.Total → (b.group join body).Total
  has : ∀ join relation types existence operator count,
    (b.has join relation types existence operator count).Total
  whereHas : ∀ join relation types existence {body : Building σ Unit}, body.Total →
    (b.whereHas join relation types existence body).Total
  load : ∀ {loads : List Load}, (∀ l ∈ loads, (b.run l.body).Total) → (b.load loads).Total
  countRelated : ∀ {loads : List (Load × Building σ Unit)}, (∀ l ∈ loads, l.2.Total) →
    (b.countRelated loads).Total
  callScope : ∀ name args, (b.callScope name args).Total

inductive Step.Refused : Step → Prop
  | fail (error : QueryError) : Refused (.fail error)
  | group {join : Join} {body : List Step} {s : Step} : s ∈ body → s.Refused →
    Refused (.group join body)
  | whereHas {join : Join} {relation : String} {types : TypeChoice} {existence : Existence}
    {body : List Step} {s : Step} : s ∈ body → s.Refused →
    Refused (.whereHas join relation types existence body)
  | load {loads : List Load} {l : Load} {s : Step} : l ∈ loads → s ∈ l.body → s.Refused →
    Refused (.load loads)
  | countRelated {loads : List Load} {l : Load} {s : Step} : l ∈ loads → s ∈ l.body →
    s.Refused → Refused (.countRelated loads)

theorem Builder.counted_eq_map (b : Builder σ) (loads : List Load) :
    b.counted loads = loads.map fun l => (l, b.run l.body) := by
  induction loads with
  | nil => rfl
  | cons l rest ih =>
    obtain ⟨relation, counts, body⟩ := l
    rw [Builder.counted, ih, List.map_cons]

/-! ### Nothing else is refused -/

section
variable {b : Builder σ}

mutual

theorem Builder.Unfailing.step (hb : b.Unfailing) {s : Step} (h : ¬ s.Refused) :
    (b.step s).Total := by
  match s with
  | .select columns => exact hb.select columns
  | .project selection =>
    intro q
    obtain ⟨a, t, ht⟩ := hb.select (selectFields (b.entity q) selection) q
    exact ⟨a, t, ht⟩
  | .orderBy field direction => exact hb.orderBy field direction
  | .filter join predicate => exact hb.filter join predicate
  | .group join body =>
    exact hb.group join (hb.run fun s hs hr => h (.group hs hr))
  | .has join relation types existence operator count =>
    intro q
    obtain ⟨a, t, ht⟩ := hb.has join relation (b.types q relation types) existence operator count q
    exact ⟨a, t, ht⟩
  | .whereHas join relation types existence body =>
    have hbody : (b.run body).Total :=
      hb.run fun s hs hr => h (.whereHas hs hr)
    intro q
    obtain ⟨a, t, ht⟩ := hb.whereHas join relation (b.types q relation types) existence hbody q
    exact ⟨a, t, ht⟩
  | .load loads =>
    exact hb.load (hb.bodies fun l hl s hs hr => h (.load hl hs hr))
  | .countRelated loads =>
    have hbodies := hb.bodies fun l hl s hs hr => h (.countRelated hl hs hr)
    refine hb.countRelated fun l hl => ?_
    rw [b.counted_eq_map] at hl
    obtain ⟨l', hl', rfl⟩ := List.mem_map.1 hl
    exact hbodies l' hl'
  | .callScope name args => exact hb.callScope name args
  | .fail error => exact absurd (.fail error) h

/-- Steps are carried out unless one of them has a failure inside. -/
theorem Builder.Unfailing.run (hb : b.Unfailing) {steps : List Step}
    (h : ∀ s ∈ steps, ¬ s.Refused) : (b.run steps).Total := by
  match steps with
  | [] => exact fun q => ⟨(), q, rfl⟩
  | s :: rest =>
    exact (hb.step (h s (by simp))).bind fun _ =>
      hb.run fun s' hs' => h s' (by simp [hs'])

theorem Builder.Unfailing.bodies (hb : b.Unfailing) {loads : List Load}
    (h : ∀ l ∈ loads, ∀ s ∈ l.body, ¬ s.Refused) : ∀ l ∈ loads, (b.run l.body).Total := by
  match loads with
  | [] => simp
  | ⟨relation, counts, body⟩ :: rest =>
    intro l hl
    rcases List.mem_cons.1 hl with rfl | hl
    · exact hb.run (h _ List.mem_cons_self)
    · exact hb.bodies (fun l hl => h l (List.mem_cons_of_mem _ hl)) l hl

end
end

/-! ### Those are refused -/

open Classical in
/-- A builder without a state that carries out whatever stands inside a request. -/
noncomputable def thorough : Builder Unit where
  entity _ := { name := "", table := "" }
  isPolymorphic _ _ := false
  select _ := pure ()
  orderBy _ _ := pure ()
  filter _ _ := pure ()
  group _ body := body
  has _ _ _ _ _ _ := pure ()
  whereHas _ _ _ _ body := body
  load loads :=
    if ∃ l ∈ loads, ∃ s ∈ l.body, s.Refused then throw (.failed "") else pure ()
  countRelated loads := loads.forM Prod.snd
  callScope _ _ := pure ()

theorem total_bind {x y : Building Unit Unit} :
    (x >>= fun _ => y).Total ↔ x.Total ∧ y.Total := by
  constructor
  · intro h
    obtain ⟨⟨⟩, ⟨⟩, hxy⟩ := h ()
    obtain ⟨⟨⟩, ⟨⟩, hx, hy⟩ := Building.bind_eq_ok.1 hxy
    exact ⟨fun _ => ⟨(), (), hx⟩, fun _ => ⟨(), (), hy⟩⟩
  · exact fun h => h.1.bind fun _ => h.2

theorem total_forM {α : Type} (f : α → Building Unit Unit) (xs : List α) :
    (xs.forM f).Total ↔ ∀ x ∈ xs, (f x).Total := by
  induction xs with
  | nil => exact ⟨fun _ _ h => absurd h List.not_mem_nil, fun _ q => ⟨(), q, rfl⟩⟩
  | cons x rest ih =>
    rw [List.forall_mem_cons, ← ih]
    exact total_bind

theorem total_run_thorough (steps : List Step) :
    (thorough.run steps).Total ↔ ∀ s ∈ steps, (thorough.step s).Total := by
  induction steps with
  | nil => exact ⟨fun _ _ h => absurd h List.not_mem_nil, fun _ q => ⟨(), q, rfl⟩⟩
  | cons s rest ih =>
    rw [List.forall_mem_cons, ← ih, Builder.run]
    exact total_bind

theorem total_load_thorough (loads : List Load) :
    (thorough.load loads).Total ↔ ∀ l ∈ loads, ∀ s ∈ l.body, ¬ s.Refused := by
  by_cases h : ∃ l ∈ loads, ∃ s ∈ l.body, s.Refused
  · simp only [thorough, h, if_true]
    constructor
    · intro htotal
      obtain ⟨_, _, hthrow⟩ := htotal ()
      cases hthrow
    · intro hnone
      obtain ⟨l, hl, s, hs, hr⟩ := h
      exact absurd hr (hnone l hl s hs)
  · simp only [thorough, h, if_false]
    exact ⟨fun _ l hl s hs hr => h ⟨l, hl, s, hs, hr⟩, fun _ q => ⟨(), q, rfl⟩⟩

theorem not_total_step_thorough {s : Step} (h : s.Refused) : ¬ (thorough.step s).Total := by
  induction h with
  | fail error =>
    intro h
    obtain ⟨_, _, h⟩ := h ()
    cases h
  | group hs _ ih => exact fun h => ih ((total_run_thorough _).1 h _ hs)
  | whereHas hs _ ih => exact fun h => ih ((total_run_thorough _).1 (fun q => h q) _ hs)
  | load hl hs hr _ => exact fun h => (total_load_thorough _).1 h _ hl _ hs hr
  | countRelated hl hs _ ih =>
    intro h
    rw [Builder.step, Builder.counted_eq_map] at h
    exact ih ((total_run_thorough _).1 ((total_forM _ _).1 h _ (List.mem_map_of_mem hl)) _ hs)

theorem unfailing_thorough : thorough.Unfailing where
  select _ q := ⟨(), q, rfl⟩
  orderBy _ _ q := ⟨(), q, rfl⟩
  filter _ _ q := ⟨(), q, rfl⟩
  group _ _ hbody := hbody
  has _ _ _ _ _ _ q := ⟨(), q, rfl⟩
  whereHas _ _ _ _ _ hbody := hbody
  load h := (total_load_thorough _).2 fun l hl s hs hr =>
    not_total_step_thorough hr ((total_run_thorough _).1 (h l hl) s hs)
  countRelated h := (total_forM _ _).2 h
  callScope _ _ q := ⟨(), q, rfl⟩

theorem total_record (call : Call) : (Recorder.record Recorder.permissive call).Total :=
  fun r => ⟨(), r.note call, rfl⟩

theorem unfailing_recorder : (Recorder.builder Recorder.permissive).Unfailing where
  select _ := total_record _
  orderBy _ _ := total_record _
  filter _ _ := total_record _
  group _ _ hbody := (total_record _).bind fun _ => hbody.bind fun _ => Building.total_modify _
  has _ _ _ _ _ _ := total_record _
  whereHas _ _ _ _ _ hbody :=
    (total_record _).bind fun _ => hbody.bind fun _ => Building.total_modify _
  load _ := (total_record _).bind fun _ => Building.total_modify _
  countRelated _ := (total_record _).bind fun _ => Building.total_modify _
  callScope _ _ := total_record _

/-- Steps are carried out by every builder whose own requests are never refused exactly if none of
them has a failure inside. -/
theorem total_run_iff (steps : List Step) :
    (∀ {σ : Type} (b : Builder σ), b.Unfailing → (b.run steps).Total) ↔
      ∀ s ∈ steps, ¬ s.Refused :=
  ⟨fun h _ hs hr => not_total_step_thorough hr
    ((total_run_thorough steps).1 (h thorough unfailing_thorough) _ hs),
  fun h _ _ hb => hb.run h⟩

end RelationalQuery
