import RelationalQuery.Proofs.Sql.Reachable

/-! What a refused request leaves behind: the query as it was. Counts of related rows are the
exception. They are added one after another, and those in front of the one that cannot be built
stay. -/
namespace RelationalQuery.Sql.Query

open Json (Value)

inductive Operation where
  | select (columns : List String)
  | orderBy (field : String) (direction : Direction)
  | filter (join : Join) (predicate : Predicate)
  | group (join : Join) (body : Building Query Unit)
  | has (join : Join) (relation : String) (types : RelatedTypes) (existence : Existence)
      (operator : String) (count : Value)
  | whereHas (join : Join) (relation : String) (types : RelatedTypes) (existence : Existence)
      (body : Building Query Unit)
  | load (loads : List Load)
  | countRelated (loads : List (Load × Building Query Unit))

def Operation.perform (b : Builder Query) : Operation → Building Query Unit
  | .select columns => b.select columns
  | .orderBy field direction => b.orderBy field direction
  | .filter join predicate => b.filter join predicate
  | .group join body => b.group join body
  | .has join relation types existence operator count =>
    b.has join relation types existence operator count
  | .whereHas join relation types existence body => b.whereHas join relation types existence body
  | .load loads => b.load loads
  | .countRelated loads => b.countRelated loads

def builtCounts (q : Query) : List (Load × Building Query Unit) → List CountColumn
  | [] => []
  | (l, body) :: rest =>
    match q.countColumn l.relation body with
    | .ok column => column :: q.builtCounts rest
    | .error _ => []

/-- What is added before the operation is refused. -/
def Operation.leftover (q : Query) : Operation → List CountColumn
  | .countRelated loads => q.builtCounts loads
  | _ => []

/-- Counts do not depend on each other. -/
theorem builtCounts_withCounts (q : Query) (counts : List CountColumn)
    (loads : List (Load × Building Query Unit)) :
    { q with counts }.builtCounts loads = q.builtCounts loads := by
  induction loads with
  | nil => rfl
  | cons l rest ih =>
    obtain ⟨l, body⟩ := l
    have hsame : { q with counts }.countColumn l.relation body =
        q.countColumn l.relation body := rfl
    simp only [builtCounts, hsame, ih]

theorem countRelated_of_refused {loads : List (Load × Building Query Unit)} {q r : Query}
    {error : QueryError} (h : countRelated loads q = .error error r) :
    r = { q with counts := q.counts ++ q.builtCounts loads } := by
  induction loads generalizing q with
  | nil => cases h
  | cons l rest ih =>
    obtain ⟨l, body⟩ := l
    rw [countRelated_cons] at h
    cases hc : q.countColumn l.relation body with
    | error e =>
      rw [hc] at h
      cases h
      simp [builtCounts, hc]
    | ok column =>
      rw [hc] at h
      have hrest := ih h
      rw [builtCounts_withCounts] at hrest
      simpa [builtCounts, hc] using hrest

section
variable {callScope : String → List Value → Building Query Unit}

theorem group_of_refused {join : Join} {body : Building Query Unit} {q r : Query}
    {error : QueryError} (h : (builderWith callScope).group join body q = .error error r) :
    r = q := by
  rw [group_eq] at h
  cases hb : body q.nested with
  | ok _ inner =>
    rw [hb] at h
    cases h
  | error e inner =>
    rw [hb] at h
    cases h
    rfl

theorem load_of_refused {loads : List Load} {q r : Query} {error : QueryError}
    (h : (builderWith callScope).load loads q = .error error r) : r = q := by
  rw [load_eq] at h
  cases hc : q.checkRelations loads with
  | ok _ =>
    rw [hc] at h
    cases h
  | error e =>
    rw [hc] at h
    cases h
    rfl

end

/-- The query after a refused operation is the one before it with what was left over. -/
theorem Operation.eq_of_refused {depth : Nat} {op : Operation} {q r : Query} {error : QueryError}
    (h : op.perform (builder depth) q = .error error r) :
    r = { q with counts := q.counts ++ op.leftover q } := by
  obtain ⟨callScope, hb⟩ := builder_eq depth
  rw [hb] at h
  have hunchanged (heq : r = q) : r = { q with counts := q.counts ++ [] } := by
    rw [heq, List.append_nil]
  cases op with
  | select columns => cases h
  | orderBy field direction => cases h
  | filter join predicate =>
    rw [perform, filter_eq] at h
    exact hunchanged (eq_of_pushFound_eq_error h)
  | group join body => exact hunchanged (group_of_refused h)
  | has join relation types existence operator count =>
    rw [perform, has_eq] at h
    exact hunchanged (eq_of_pushFound_eq_error h)
  | whereHas join relation types existence body =>
    rw [perform, whereHas_eq] at h
    exact hunchanged (eq_of_pushFound_eq_error h)
  | load loads => exact hunchanged (load_of_refused h)
  | countRelated loads => exact countRelated_of_refused h

theorem Operation.leftover_ne_nil {op : Operation} {q : Query} :
    op.leftover q ≠ [] ↔ ∃ l body rest column, op = .countRelated ((l, body) :: rest) ∧
      q.countColumn l.relation body = .ok column := by
  constructor
  · intro h
    cases op with
    | countRelated loads =>
      cases loads with
      | nil => exact absurd rfl h
      | cons l rest =>
        obtain ⟨l, body⟩ := l
        cases hc : q.countColumn l.relation body with
        | ok column => exact ⟨l, body, rest, column, rfl, hc⟩
        | error e => simp [leftover, builtCounts, hc] at h
    | _ => exact absurd rfl h
  · rintro ⟨l, body, rest, column, rfl, hc⟩
    simp [leftover, builtCounts, hc]

/-- A refused request changes nothing, unless it asks for several counts and the first can be
built: then the counts in front of the one that cannot are left in the query. -/
theorem changed_of_refused {depth : Nat} {op : Operation} {q r : Query} {error : QueryError}
    (h : op.perform (builder depth) q = .error error r) :
    r = { q with counts := q.counts ++ op.leftover q } ∧
      (r ≠ q ↔ ∃ l body rest column, op = .countRelated ((l, body) :: rest) ∧
        q.countColumn l.relation body = .ok column) := by
  have hr := Operation.eq_of_refused h
  refine ⟨hr, ?_⟩
  rw [← Operation.leftover_ne_nil, not_iff_not, hr]
  constructor
  · intro heq
    simpa using congrArg counts heq
  · intro hnil
    rw [hnil, List.append_nil]

/-! ### Counts of two relations, one of them unknown -/

def posted : Schema :=
  { models := [
      { entity := { name := "User", table := "users" }
        relations := [⟨"posts", .hasMany "Post" "user_id" "id"⟩] },
      { entity := { name := "Post", table := "posts" } }] }

def posters : Query := { schema := posted, model := posted.models[0] }

def postsAndLikes : Operation :=
  .countRelated [(⟨"posts", true, []⟩, pure ()), (⟨"likes", true, []⟩, pure ())]

def countedPosters : Query :=
  { posters with
    counts := [⟨"posts", .related .count ⟨"posts", none⟩ ⟨"posts", "user_id", "users", "id"⟩ []⟩] }

theorem refused_postsAndLikes : postsAndLikes.perform (builder 0) posters =
    .error (.unknownRelation "likes" "User") countedPosters := rfl

/-- The number of posts stays in the query. -/
theorem changed_postsAndLikes : Reachable posted posters ∧
    postsAndLikes.perform (builder 0) posters =
      .error (.unknownRelation "likes" "User") countedPosters ∧
    countedPosters ≠ posters :=
  ⟨.ofModel (rfl : ofModel posted "User" = .ok posters), refused_postsAndLikes, fun h =>
    absurd (congrArg (·.counts.length) h) (by decide)⟩

theorem leftover_postsAndLikes : postsAndLikes.perform (builder 0) posters =
      .error (.unknownRelation "likes" "User") countedPosters ∧
    countedPosters = { posters with counts := postsAndLikes.leftover posters } ∧
    (countedPosters ≠ posters ↔ ∃ l body rest column,
      postsAndLikes = .countRelated ((l, body) :: rest) ∧
        posters.countColumn l.relation body = .ok column) :=
  ⟨refused_postsAndLikes, changed_of_refused refused_postsAndLikes⟩

end RelationalQuery.Sql.Query
