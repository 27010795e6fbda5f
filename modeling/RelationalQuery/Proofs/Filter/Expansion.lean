import RelationalQuery.Proofs.Building.Recording
import RelationalQuery.Proofs.Filter.Compiled
import RelationalQuery.Proofs.Text.Joined

/-! What a search expands to. Each path leads through its relations to one test per field, the
trees of conditions end in these tests and in nothing else, and a builder is asked for those that
no empty name cuts off. -/
namespace RelationalQuery

open Json (Value)

/-! ### Paths -/

@[ext]
structure SearchPath where
  relations : List String
  fields : List String
  fields_ne_nil : fields ≠ []
  relations_plain : ∀ relation ∈ relations, ':' ∉ relation.toList
  fields_plain : ∀ field ∈ fields, ':' ∉ field.toList ∧ ',' ∉ field.toList

namespace SearchPath

def text (p : SearchPath) : String := ":".intercalate (p.relations ++ [",".intercalate p.fields])

theorem getLast?_split (path : String) :
    ((Text.split ':' path).getLast?.getD "") ∈ Text.split ':' path := by
  have hne : Text.split ':' path ≠ [] := Text.split_ne_nil path
  rw [List.getLast?_eq_some_getLast hne]
  exact List.getLast_mem hne

def ofText (path : String) : SearchPath where
  relations := (pathSegments path).1
  fields := (pathSegments path).2
  fields_ne_nil := Text.split_ne_nil _
  relations_plain _ h := Text.not_mem_of_mem_split (List.dropLast_subset _ h)
  fields_plain _ h :=
    ⟨fun hc => Text.not_mem_of_mem_split (getLast?_split path) (Text.mem_of_mem_split h hc),
      Text.not_mem_of_mem_split h⟩

theorem relations_ofText (path : String) :
    (ofText path).relations = (Text.split ':' path).dropLast := rfl

theorem fields_ofText (path : String) :
    (ofText path).fields = Text.split ',' ((Text.split ':' path).getLast?.getD "") := rfl

theorem text_ofText (path : String) : (ofText path).text = path := by
  have hne : Text.split ':' path ≠ [] := Text.split_ne_nil path
  calc
    (ofText path).text = ":".intercalate ((Text.split ':' path).dropLast ++
        [(Text.split ':' path).getLast?.getD ""]) := by
      rw [text, relations_ofText, fields_ofText, Text.intercalate_split rfl]
    _ = ":".intercalate (Text.split ':' path) := by
      rw [List.getLast?_eq_some_getLast hne, Option.getD_some, List.dropLast_append_getLast]
    _ = path := Text.intercalate_split rfl path

theorem ofText_text (p : SearchPath) : ofText p.text = p := by
  have hlast : ':' ∉ (",".intercalate p.fields).toList := by
    rw [String.toList_intercalate]
    intro h
    obtain h | ⟨_, hfield, h⟩ := Text.mem_intercalate h
    · exact absurd h (by decide)
    · obtain ⟨field, hmem, rfl⟩ := List.mem_map.1 hfield
      exact (p.fields_plain field hmem).1 h
  have hpieces : Text.split ':' p.text = p.relations ++ [",".intercalate p.fields] := by
    refine Text.split_intercalate rfl (by simp) ?_
    intro piece hpiece
    obtain h | h := List.mem_append.1 hpiece
    · exact p.relations_plain piece h
    · rw [List.mem_singleton.1 h]
      exact hlast
  have hfields : Text.split ',' (",".intercalate p.fields) = p.fields :=
    Text.split_intercalate rfl p.fields_ne_nil fun field h => (p.fields_plain field h).2
  ext1
  · rw [relations_ofText, hpieces, List.dropLast_concat]
  · rw [fields_ofText, hpieces, List.getLast?_concat, Option.getD_some, hfields]

def leaves (p : SearchPath) : List (List String × String) := p.fields.map (p.relations, ·)

end SearchPath

def Wildcard.paths (w : Wildcard) : List SearchPath := w.fields.map .ofText

theorem Wildcard.map_text_paths (w : Wildcard) : w.paths.map SearchPath.text = w.fields := by
  have hid : SearchPath.text ∘ SearchPath.ofText = id := funext SearchPath.text_ofText
  rw [paths, List.map_map, hid, List.map_id]

theorem Wildcard.members_eq (w : Wildcard) :
    w.members = w.paths.flatMap fun p => chain w.value p.fields p.relations := by
  rw [paths, List.flatMap_map]
  rfl

/-! ### Ends -/

namespace Filter

/-- The nodes in which a list of filters ends, with the relations on the way to each: the members
in order, through every one that only asks that related rows fulfil one of a list. -/
inductive Ends : List Filter → List (List String × Filter) → Prop where
  | nil : Ends [] []
  | here {f : Filter} {rest : List Filter} {ends : List (List String × Filter)} :
      f.operator ≠ "where_has" → Ends rest ends → Ends (f :: rest) (([], f) :: ends)
  | through {relation : String} {members rest : List Filter}
      {inner ends : List (List String × Filter)} : members ≠ [] → Ends members inner →
      Ends rest ends → Ends (.relation relation "where_has" (.anyOf members) :: rest)
        (inner.map (fun (relations, f) => (relation :: relations, f)) ++ ends)

theorem Ends.append {fs gs : List Filter} {es es' : List (List String × Filter)}
    (h : Ends fs es) (h' : Ends gs es') : Ends (fs ++ gs) (es ++ es') := by
  induction h with
  | nil => exact h'
  | here hop _ ih => exact .here hop ih
  | through hne hinner _ _ ih =>
    rw [List.append_assoc]
    exact .through hne hinner ih

/-- A list ends in one way only. -/
theorem Ends.unique {fs : List Filter} {es es' : List (List String × Filter)}
    (h : Ends fs es) (h' : Ends fs es') : es' = es := by
  induction h generalizing es' with
  | nil =>
    cases h'
    rfl
  | here hop _ ih =>
    cases h' with
    | here _ hrest => rw [ih hrest]
    | through => exact absurd rfl hop
  | through hne hinner hrest ihinner ihrest =>
    cases h' with
    | here hop => exact absurd rfl hop
    | through _ hinner' hrest' => rw [ihinner hinner', ihrest hrest']

theorem chain_ne_nil {value : String} {fields relations : List String} (h : fields ≠ []) :
    chain value fields relations ≠ [] := by
  cases relations with
  | nil => simpa [chain] using h
  | cons relation rest => simp [chain]

theorem ends_chain (value : String) {fields : List String} (h : fields ≠ [])
    (relations : List String) :
    Ends (chain value fields relations)
      (fields.map fun field => (relations, .condition field "like" (.str value))) := by
  induction relations with
  | nil =>
    have hlike : "like" ≠ "where_has" := by decide
    rw [chain]
    -- The conditions end as they stand, however many there are.
    clear h
    induction fields with
    | nil => exact .nil
    | cons field rest ih => exact .here hlike ih
  | cons relation rest ih =>
    have hthrough : Ends (chain value fields (relation :: rest)) _ :=
      .through (chain_ne_nil h) ih .nil
    simpa [Function.comp_def] using hthrough

theorem ends_members (w : Wildcard) :
    Ends w.members ((w.paths.flatMap SearchPath.leaves).map fun (relations, field) =>
      (relations, .condition field "like" (.str w.value))) := by
  rw [w.members_eq]
  induction w.paths with
  | nil => exact .nil
  | cons p rest ih =>
    have hp := ends_chain w.value p.fields_ne_nil p.relations
    have hall := hp.append ih
    simpa [SearchPath.leaves, Function.comp_def] using hall

end Filter

/-! ### Recorded tests -/

def Call.isSearching : Call → Bool
  | .filter _ _ => true
  | .openGroup _ => true
  | .closeGroup => true
  | .openRelated _ _ _ existence => existence = .present
  | .closeRelated => true
  | _ => false

/-- The tests among calls, each with the relations that are open where it stands. -/
def testsWithin : List String → List Call → List (List String × Predicate)
  | _, [] => []
  | around, .filter _ p :: rest => (around, p) :: testsWithin around rest
  | around, .openRelated _ relation _ _ :: rest => testsWithin (around ++ [relation]) rest
  | around, .closeRelated :: rest => testsWithin around.dropLast rest
  | around, _ :: rest => testsWithin around rest

structure Shows (calls : List Call) (tests : List (List String × Predicate)) : Prop where
  searching : ∀ call ∈ calls, call.isSearching = true
  within : ∀ around rest, testsWithin around (calls ++ rest) =
    tests.map (fun (relations, p) => (around ++ relations, p)) ++ testsWithin around rest

namespace Shows
variable {xs ys : List Call} {ts us : List (List String × Predicate)}

theorem nil : Shows [] [] where
  searching := by simp
  within _ _ := rfl

theorem testsWithin_eq (h : Shows xs ts) : testsWithin [] xs = ts := by
  have hwithin := h.within [] []
  simpa [testsWithin] using hwithin

theorem append (h : Shows xs ts) (h' : Shows ys us) : Shows (xs ++ ys) (ts ++ us) where
  searching call hcall := (List.mem_append.1 hcall).elim (h.searching call) (h'.searching call)
  within around rest := by
    rw [List.append_assoc, h.within, h'.within, List.map_append, List.append_assoc]

theorem filter (join : Join) (p : Predicate) : Shows [.filter join p] [([], p)] where
  searching := by simp [Call.isSearching]
  within around rest := by simp [testsWithin]

theorem openGroup (join : Join) : Shows [.openGroup join] [] where
  searching := by simp [Call.isSearching]
  within _ _ := rfl

theorem closeGroup : Shows [.closeGroup] [] where
  searching := by simp [Call.isSearching]
  within _ _ := rfl

/-- What is inside is shown behind the relation. -/
theorem related (h : Shows xs ts) (join : Join) (relation : String) (types : RelatedTypes) :
    Shows (.openRelated join relation types .present :: (xs ++ [.closeRelated]))
      (ts.map fun (relations, p) => (relation :: relations, p)) where
  searching call hcall := by
    simp only [List.mem_cons, List.mem_append, List.not_mem_nil, or_false] at hcall
    obtain rfl | hcall | rfl := hcall
    · rfl
    · exact h.searching call hcall
    · rfl
  within around rest := by
    have hinside := h.within (around ++ [relation]) (.closeRelated :: rest)
    simpa [testsWithin, Function.comp_def] using hinside

end Shows

namespace Recorder

/-- The action does nothing but record calls of a search, which make these tests. -/
def Searches (x : Building Recorder Unit) (tests : List (List String × Predicate)) : Prop :=
  ∀ r, ∃ calls, x r = .ok () { r with calls := r.calls ++ calls } ∧ Shows calls tests

section
variable {x y : Building Recorder Unit} {ts us : List (List String × Predicate)}

theorem searches_pure : Searches (pure ()) [] := fun r => ⟨[], by simp [pure, EStateM.pure], .nil⟩

theorem searches_record {call : Call} (h : Shows [call] ts) :
    Searches (record permissive call) ts := fun _ => ⟨[call], rfl, h⟩

theorem searches_note {call : Call} (h : Shows [call] ts) :
    Searches (modify (note call)) ts := fun _ => ⟨[call], rfl, h⟩

theorem Searches.bind (hx : Searches x ts) (hy : Searches y us) :
    Searches (x >>= fun _ => y) (ts ++ us) := by
  intro r
  obtain ⟨calls, hcalls, hshows⟩ := hx r
  obtain ⟨calls', hcalls', hshows'⟩ := hy { r with calls := r.calls ++ calls }
  refine ⟨calls ++ calls', ?_, hshows.append hshows'⟩
  rw [Building.bind_of_ok hcalls, hcalls', List.append_assoc]

variable {body rest : List Step}

theorem Searches.run_append (h : Searches ((builder permissive).run body) ts)
    (h' : Searches ((builder permissive).run rest) us) :
    Searches ((builder permissive).run (body ++ rest)) (ts ++ us) := by
  rw [Builder.run_append]
  exact h.bind h'

theorem searches_step {s : Step} (h : Searches ((builder permissive).step s) ts) :
    Searches ((builder permissive).run [s]) ts := by
  have hrun : Searches ((builder permissive).run [s]) (ts ++ []) := h.bind searches_pure
  rwa [List.append_nil] at hrun

theorem searches_filter (join : Join) (p : Predicate) :
    Searches ((builder permissive).run [.filter join p]) [([], p)] :=
  searches_step (searches_record (.filter join p))

theorem Searches.group (h : Searches ((builder permissive).run body) ts) (join : Join) :
    Searches ((builder permissive).run [.group join body]) ts := by
  have hgroup := (searches_record (.openGroup join)).bind (h.bind (searches_note .closeGroup))
  rw [List.nil_append, List.append_nil] at hgroup
  exact searches_step hgroup

theorem Searches.whereHas (h : Searches ((builder permissive).run body) ts) (join : Join)
    (relation : String) :
    Searches ((builder permissive).run [.whereHas join relation .inferred .present body])
      (ts.map fun (relations, p) => (relation :: relations, p)) := by
  refine searches_step fun r => ?_
  let types := (builder permissive).types r relation .inferred
  let call := Call.openRelated join relation types .present
  obtain ⟨calls, hcalls, hshows⟩ := h (r.note call)
  have hopen : record permissive call r = .ok () (r.note call) := rfl
  refine ⟨call :: (calls ++ [.closeRelated]), ?_, hshows.related join relation types⟩
  change (record permissive call >>= fun _ => (builder permissive).run body >>= fun _ =>
    modify (note .closeRelated)) r = _
  rw [Building.bind_of_ok hopen, Building.bind_of_ok hcalls]
  change EStateM.Result.ok () (note .closeRelated _) = _
  simp [note]

end

end Recorder

/-! ### Searches as they are recorded -/

def Named (leaf : List String × String) : Prop := leaf.2 ≠ "" ∧ ∀ relation ∈ leaf.1, relation ≠ ""

instance : DecidablePred Named := fun _ => inferInstanceAs (Decidable (_ ∧ _))

theorem named_cons {relation : String} (h : relation ≠ "") (leaf : List String × String) :
    Named (relation :: leaf.1, leaf.2) ↔ Named leaf := by
  simp [Named, h]

def likeTest (value : String) (leaf : List String × String) : List String × Predicate :=
  (leaf.1, .compare leaf.2 "like" (.str ("%" ++ value ++ "%")))

namespace Filter

open Recorder (builder permissive Searches)

variable (x : Expansion) (join : Join) (value : String)

theorem memberWith_condition (field : String) :
    memberWith x join (.condition field "like" (.str value)) =
      if field = "" then []
      else [.filter join (.compare field "like" (.str ("%" ++ value ++ "%")))] := by
  simp only [condition, memberWith, conditionWith_eq, conditionStep_like, Option.filter_some]
  by_cases h : field = ""
  · simp [h, groupUnless]
  · simp [h, groupUnless, likePattern, Operand.value, Value.plainText]

theorem memberWith_relation (relation : String) {members : List Filter} (h : members ≠ []) :
    memberWith x join (.relation relation "where_has" (.anyOf members)) =
      if relation = "" then []
      else [.whereHas join relation .inferred .present [.group .and (anyWith x .and members)]] := by
  have htoken : Operator.ofToken "where_has" = .whereHas .present := by rfl
  simp only [Filter.relation, anyOf, memberWith, conditionWith_eq, conditionStep, htoken,
    operandBody, stepsWith, Option.filter_some]
  by_cases hrelation : relation = ""
  · simp [hrelation, groupUnless]
  · simp [hrelation, groupUnless, h, whereHasStep]

theorem anyWith_append {fs : List Filter} (h : fs ≠ []) (gs : List Filter) :
    anyWith x join (fs ++ gs) = anyWith x join fs ++ anyWith x .or gs := by
  induction fs generalizing join with
  | nil => exact absurd rfl h
  | cons f rest ih =>
    rw [List.cons_append, anyWith, anyWith, List.append_assoc]
    -- Only the first member takes `join`, and that is in `fs`.
    cases rest with
    | nil => simp [anyWith]
    | cons g rest => rw [ih .or (List.cons_ne_nil g rest)]

theorem searches_conditions (fields : List String) :
    Searches ((builder permissive).run (anyWith x join (chain value fields [])))
      (((fields.map ([], ·)).filter Named).map (likeTest value)) := by
  rw [chain]
  induction fields generalizing join with
  | nil =>
    rw [List.map_nil, anyWith]
    exact Recorder.searches_pure
  | cons field rest ih =>
    rw [List.map_cons, anyWith, memberWith_condition]
    by_cases h : field = ""
    · simpa [h, Named] using ih .or
    · have hfield := Recorder.searches_filter join
        (.compare field "like" (.str ("%" ++ value ++ "%")))
      simpa [h, Named, likeTest] using hfield.run_append (ih .or)

theorem searches_chain {fields : List String} (h : fields ≠ []) (relations : List String) :
    Searches ((builder permissive).run (anyWith x join (chain value fields relations)))
      (((fields.map (relations, ·)).filter Named).map (likeTest value)) := by
  induction relations generalizing join with
  | nil => exact searches_conditions x join value fields
  | cons relation rest ih =>
    rw [chain, anyWith, anyWith, List.append_nil, memberWith_relation x join _ (chain_ne_nil h)]
    by_cases hrelation : relation = ""
    -- A relation without a name takes everything behind it along.
    · have hnone : (fields.map (relation :: rest, ·)).filter Named = [] := by
        simp [hrelation, Named]
      rw [if_pos hrelation, hnone]
      exact Recorder.searches_pure
    · rw [if_neg hrelation]
      have hinside := ((ih .and).group .and).whereHas join relation
      have hleaves : (fields.map (relation :: rest, ·)).filter Named =
          ((fields.map (rest, ·)).filter Named).map fun leaf => (relation :: leaf.1, leaf.2) := by
        simp [List.filter_map, Function.comp_def, named_cons hrelation (rest, _)]
      rw [hleaves]
      simpa [likeTest, Function.comp_def] using hinside

theorem searches_paths (paths : List SearchPath) :
    Searches ((builder permissive).run
        (anyWith x join (paths.flatMap fun p => chain value p.fields p.relations)))
      (((paths.flatMap SearchPath.leaves).filter Named).map (likeTest value)) := by
  induction paths generalizing join with
  | nil =>
    rw [List.flatMap_nil, anyWith]
    exact Recorder.searches_pure
  | cons p rest ih =>
    have hp := searches_chain x join value p.fields_ne_nil p.relations
    rw [List.flatMap_cons, anyWith_append x join (chain_ne_nil p.fields_ne_nil),
      List.flatMap_cons, List.filter_append, List.map_append]
    exact hp.run_append (ih .or)

end Filter

/-- A search is its paths, as they are written. It expands to a list that ends in one test for the
value per leaf of the paths, in order, and in nothing else; a builder records the tests of the
named leaves, each within the relations of its path, and no call that is not part of one. -/
theorem expansion_exact (w : Wildcard) :
    w.paths.map SearchPath.text = w.fields ∧
    (∀ p : SearchPath, SearchPath.ofText p.text = p) ∧
    (∀ ends, Filter.Ends w.members ends ↔
      ends = (w.paths.flatMap SearchPath.leaves).map fun (relations, field) =>
        (relations, .condition field "like" (.str w.value))) ∧
    ∀ r, ∃ calls,
      (Recorder.builder Recorder.permissive).run (Filter.wildcardSteps w) r =
        .ok () { r with calls := r.calls ++ calls } ∧
      (∀ call ∈ calls, call.isSearching = true) ∧
      testsWithin [] calls =
        ((w.paths.flatMap SearchPath.leaves).filter Named).map (likeTest w.value) := by
  refine ⟨w.map_text_paths, SearchPath.ofText_text, ?_, ?_⟩
  · intro ends
    constructor
    · intro hends
      exact (Filter.ends_members w).unique hends
    · rintro rfl
      exact Filter.ends_members w
  · intro r
    have hsearches := Filter.searches_paths Filter.Expansion.bare .and w.value w.paths
    rw [← w.members_eq] at hsearches
    obtain ⟨calls, hcalls, hshows⟩ := hsearches r
    exact ⟨calls, hcalls, hshows.searching, hshows.testsWithin_eq⟩

end RelationalQuery
