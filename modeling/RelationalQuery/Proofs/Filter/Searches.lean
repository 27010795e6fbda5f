import RelationalQuery.Proofs.Filter.Compiled

/-! Which wildcard searches of a tree are compiled: the one the tree itself carries. A member of a
list adds its condition and its own lists, and what it searches for is left out. -/
namespace RelationalQuery.Filter

def searchGroup : Option Wildcard → List Step
  | some w => groupUnless w.fields.isEmpty (wildcardSteps w)
  | none => []

def searches (f : Filter) : Bool := f.wildcard.any fun w => !w.fields.isEmpty

mutual

/-- The steps of every part of a filter and of the members of its lists, searches included. -/
def everyPart (join : Join) : Filter → List Step
  | f@⟨_, _, _, _, all, any, wildcard⟩ =>
    f.conditionSteps join ++
    (groupUnless all.isEmpty (everyPartAll all) ++
      groupUnless any.isEmpty (everyPartAny .and any)) ++
    searchGroup wildcard

def everyPartAll : List Filter → List Step
  | [] => []
  | f :: rest => everyPart .and f ++ everyPartAll rest

def everyPartAny (join : Join) : List Filter → List Step
  | [] => []
  | f :: rest => everyPart join f ++ everyPartAny .or rest

end

/-- The first filter is a member of a list of the second, or of a list of such a member. -/
inductive Below : Filter → Filter → Prop where
  | all {f g : Filter} : g ∈ f.all → Below g f
  | any {f g : Filter} : g ∈ f.any → Below g f
  | trans {f g h : Filter} : Below g h → Below h f → Below g f

mutual

def unsearched : Filter → Filter
  | ⟨field, operand, operator, subOperator, all, any, _⟩ =>
    ⟨field, operand, operator, subOperator, unsearchedAll all, unsearchedAll any, none⟩

def unsearchedAll : List Filter → List Filter
  | [] => []
  | f :: rest => unsearched f :: unsearchedAll rest

end

def ownSearch (f : Filter) : Filter := { f.unsearched with wildcard := f.wildcard }

theorem isEmpty_unsearchedAll (fs : List Filter) : (unsearchedAll fs).isEmpty = fs.isEmpty := by
  cases fs with
  | nil => rfl
  | cons f rest => rw [unsearchedAll, List.isEmpty_cons, List.isEmpty_cons]

mutual

/-- A member is compiled as if nothing in it were searched for. -/
theorem everyPart_unsearched (join : Join) (f : Filter) :
    everyPart join f.unsearched = f.memberWith expansion join := by
  match f with
  | ⟨field, operand, operator, subOperator, all, any, wildcard⟩ =>
    rw [unsearched, everyPart, memberWith, everyPartAll_unsearched all,
      everyPartAny_unsearched .and any, isEmpty_unsearchedAll, isEmpty_unsearchedAll, searchGroup,
      List.append_nil]
    rfl

theorem everyPartAll_unsearched (fs : List Filter) :
    everyPartAll (unsearchedAll fs) = allWith expansion fs := by
  match fs with
  | [] => rw [unsearchedAll, everyPartAll, allWith]
  | f :: rest =>
    rw [unsearchedAll, everyPartAll, allWith, everyPart_unsearched .and f,
      everyPartAll_unsearched rest]

theorem everyPartAny_unsearched (join : Join) (fs : List Filter) :
    everyPartAny join (unsearchedAll fs) = anyWith expansion join fs := by
  match fs with
  | [] => rw [unsearchedAll, everyPartAny, anyWith]
  | f :: rest =>
    rw [unsearchedAll, everyPartAny, anyWith, everyPart_unsearched join f,
      everyPartAny_unsearched .or rest]

end

theorem steps_eq_memberWith (f : Filter) :
    f.steps = f.memberWith expansion .and ++ searchGroup f.wildcard := by
  match f with
  | ⟨field, operand, operator, subOperator, all, any, wildcard⟩ =>
    simp only [steps, stepsWith, memberWith, searchGroup]
    rfl

theorem steps_eq_everyPart_ownSearch (f : Filter) : f.steps = f.ownSearch.everyPart .and := by
  rw [steps_eq_memberWith, ← everyPart_unsearched]
  match f with
  | ⟨field, operand, operator, subOperator, all, any, wildcard⟩ =>
    simp only [ownSearch, unsearched, everyPart, searchGroup, List.append_nil]
    rfl

/-! ### Groups

Every search that is compiled opens one group, so groups tell whether one is left out. -/

mutual

def groupsOf : Step → Nat
  | .group _ body => groupsIn body + 1
  | _ => 0

def groupsIn : List Step → Nat
  | [] => 0
  | s :: rest => groupsOf s + groupsIn rest

end

@[simp] theorem groupsIn_nil : groupsIn [] = 0 := by rw [groupsIn]

@[simp] theorem groupsIn_append (xs ys : List Step) :
    groupsIn (xs ++ ys) = groupsIn xs + groupsIn ys := by
  induction xs with
  | nil => simp
  | cons x xs ih => simp only [List.cons_append, groupsIn, ih, Nat.add_assoc]

theorem groupsIn_groupUnless (b : Bool) (body : List Step) :
    groupsIn (groupUnless b body) = if b then 0 else groupsIn body + 1 := by
  cases b <;> simp [groupUnless, groupsIn, groupsOf]

theorem groupsIn_conditionWith (x : Expansion) (join : Join) (f : Filter) :
    groupsIn (conditionWith x join f.field f.operand f.operator f.subOperator) = 0 := by
  rw [conditionWith_eq]
  cases f.field.filter (· ≠ "") with
  | none => exact groupsIn_nil
  | some name =>
    obtain ⟨p, hp⟩ | ⟨ex, hex⟩ | ⟨ex, hex⟩ := conditionStep_cases name f.operator f.subOperator
      f.operand.value (operandBody x f.operator name f.operand)
    · simp [hp, groupsIn, groupsOf]
    · simp [hex, groupsIn, groupsOf]
    · simp only [hex, whereHasStep]
      split <;> simp [groupsIn, groupsOf]

theorem lists_of_mem_chain {value : String} {fields relations : List String} {f : Filter}
    (h : f ∈ chain value fields relations) : f.all = [] ∧ f.any = [] := by
  cases relations with
  | nil =>
    obtain ⟨field, -, rfl⟩ := List.mem_map.1 h
    exact ⟨rfl, rfl⟩
  | cons relation rest =>
    rw [List.mem_singleton.1 h]
    exact ⟨rfl, rfl⟩

theorem groupsIn_memberWith_of_no_lists (x : Expansion) (join : Join) {f : Filter}
    (h : f.all = [] ∧ f.any = []) : groupsIn (f.memberWith x join) = 0 := by
  have hdirect := groupsIn_conditionWith x join f
  match f, h with
  | ⟨field, operand, operator, subOperator, [], [], wildcard⟩, _ =>
    rw [memberWith]
    simpa [groupUnless] using hdirect

/-- What a search expands to are conditions only. -/
theorem groupsIn_wildcardSteps (w : Wildcard) : groupsIn (wildcardSteps w) = 0 := by
  have hmembers : ∀ f ∈ w.members, f.all = [] ∧ f.any = [] := by
    intro f hf
    obtain ⟨path, -, hf⟩ := List.mem_flatMap.1 hf
    exact lists_of_mem_chain hf
  unfold wildcardSteps
  generalize w.members = fs at hmembers
  generalize Join.and = join
  induction fs generalizing join with
  | nil => rw [anyWith, groupsIn_nil]
  | cons f rest ih =>
    rw [anyWith, groupsIn_append, groupsIn_memberWith_of_no_lists _ _ (hmembers f (by simp)),
      ih (fun g hg => hmembers g (by simp [hg])) .or]

theorem groupsIn_searchGroup (f : Filter) :
    groupsIn (searchGroup f.wildcard) = if f.searches then 1 else 0 := by
  unfold searchGroup searches
  cases f.wildcard with
  | none => simp
  | some w => cases hw : w.fields.isEmpty <;> simp [groupsIn_groupUnless, groupsIn_wildcardSteps, hw]

mutual

def searchCount : Filter → Nat
  | f@⟨_, _, _, _, all, any, _⟩ =>
    (if f.searches then 1 else 0) + (searchCountAll all + searchCountAll any)

def searchCountAll : List Filter → Nat
  | [] => 0
  | f :: rest => searchCount f + searchCountAll rest

end

theorem searchCount_eq (f : Filter) :
    searchCount f =
      (if f.searches then 1 else 0) + (searchCountAll f.all + searchCountAll f.any) := by
  match f with
  | ⟨_, _, _, _, _, _, _⟩ => rw [searchCount]

mutual

theorem groupsIn_everyPart (join : Join) (f : Filter) :
    groupsIn (everyPart join f) = groupsIn (f.memberWith expansion join) + searchCount f := by
  match f with
  | ⟨field, operand, operator, subOperator, all, any, wildcard⟩ =>
    have hall := groupsIn_everyPartAll all
    have hany := groupsIn_everyPartAny .and any
    have hsearch :=
      groupsIn_searchGroup ⟨field, operand, operator, subOperator, all, any, wildcard⟩
    have hall₀ : all.isEmpty = true → searchCountAll all = 0 := by
      intro h
      rw [List.isEmpty_iff.1 h, searchCountAll]
    have hany₀ : any.isEmpty = true → searchCountAll any = 0 := by
      intro h
      rw [List.isEmpty_iff.1 h, searchCountAll]
    rw [everyPart, memberWith, searchCount]
    simp only [groupsIn_append, groupsIn_groupUnless, hsearch, hall, hany, conditionSteps]
    split_ifs <;> grind

theorem groupsIn_everyPartAll (fs : List Filter) :
    groupsIn (everyPartAll fs) = groupsIn (allWith expansion fs) + searchCountAll fs := by
  match fs with
  | [] => simp [everyPartAll, allWith, searchCountAll]
  | f :: rest =>
    have hf := groupsIn_everyPart .and f
    have hrest := groupsIn_everyPartAll rest
    simp only [everyPartAll, allWith, searchCountAll, groupsIn_append, hf, hrest]
    omega

theorem groupsIn_everyPartAny (join : Join) (fs : List Filter) :
    groupsIn (everyPartAny join fs) = groupsIn (anyWith expansion join fs) + searchCountAll fs := by
  match fs with
  | [] => simp [everyPartAny, anyWith, searchCountAll]
  | f :: rest =>
    have hf := groupsIn_everyPart join f
    have hrest := groupsIn_everyPartAny .or rest
    simp only [everyPartAny, anyWith, searchCountAll, groupsIn_append, hf, hrest]
    omega

end

theorem groupsIn_everyPart_steps (f : Filter) :
    groupsIn (f.everyPart .and) =
      groupsIn f.steps + (searchCountAll f.all + searchCountAll f.any) := by
  have hsearch := groupsIn_searchGroup f
  have hevery := groupsIn_everyPart .and f
  rw [steps_eq_memberWith, groupsIn_append, hevery, hsearch, searchCount_eq]
  omega

/-! ### Searches below -/

theorem searchCount_le_of_mem {g : Filter} {fs : List Filter} (h : g ∈ fs) :
    searchCount g ≤ searchCountAll fs := by
  induction fs with
  | nil => cases h
  | cons f rest ih =>
    rw [searchCountAll]
    obtain rfl | h := List.mem_cons.1 h
    · omega
    · have := ih h
      omega

theorem Below.searchCount_le {f g : Filter} (h : Below g f) :
    searchCount g ≤ searchCountAll f.all + searchCountAll f.any := by
  induction h with
  | all h => exact Nat.le_add_right_of_le (searchCount_le_of_mem h)
  | any h => exact Nat.le_add_left_of_le (searchCount_le_of_mem h)
  | @trans f g h _ _ ihg ihh =>
    have := searchCount_eq h
    omega

mutual

theorem searchCount_pos {f : Filter} (h : 0 < searchCount f) :
    f.searches = true ∨ ∃ g, Below g f ∧ g.searches = true := by
  match f, h with
  | ⟨field, operand, operator, subOperator, all, any, wildcard⟩, h =>
    have hcount := searchCount_eq ⟨field, operand, operator, subOperator, all, any, wildcard⟩
    by_cases hown : Filter.searches ⟨field, operand, operator, subOperator, all, any, wildcard⟩
    · exact .inl hown
    · right
      rw [hcount, if_neg hown] at h
      by_cases hall : 0 < searchCountAll all
      · obtain ⟨g, hg, hsearch | ⟨i, hi, hsearch⟩⟩ := searchCountAll_pos hall
        · exact ⟨g, .all hg, hsearch⟩
        · exact ⟨i, .trans hi (.all hg), hsearch⟩
      · have hany : 0 < searchCountAll any := by
          dsimp only at h
          omega
        obtain ⟨g, hg, hsearch | ⟨i, hi, hsearch⟩⟩ := searchCountAll_pos hany
        · exact ⟨g, .any hg, hsearch⟩
        · exact ⟨i, .trans hi (.any hg), hsearch⟩

theorem searchCountAll_pos {fs : List Filter} (h : 0 < searchCountAll fs) :
    ∃ f ∈ fs, f.searches = true ∨ ∃ g, Below g f ∧ g.searches = true := by
  match fs, h with
  | f :: rest, h =>
    by_cases hf : 0 < searchCount f
    · exact ⟨f, by simp, searchCount_pos hf⟩
    · have hrest : 0 < searchCountAll rest := by
        rw [searchCountAll] at h
        omega
      obtain ⟨g, hg, hsearch⟩ := searchCountAll_pos hrest
      exact ⟨g, by simp [hg], hsearch⟩

end

theorem searchCount_members_eq_zero {f : Filter} :
    searchCountAll f.all + searchCountAll f.any = 0 ↔ ∀ g, Below g f → g.searches = false := by
  constructor
  · intro h g hg
    have hle := hg.searchCount_le
    rw [searchCount_eq] at hle
    by_contra hsearch
    rw [Bool.not_eq_false] at hsearch
    rw [if_pos hsearch] at hle
    omega
  · intro h
    by_contra hpos
    have hnone : ∀ {fs : List Filter}, (∀ g ∈ fs, Below g f) → ¬ 0 < searchCountAll fs := by
      intro fs hfs hcount
      obtain ⟨g, hg, hsearch | ⟨i, hi, hsearch⟩⟩ := searchCountAll_pos hcount
      · simp [h g (hfs g hg)] at hsearch
      · simp [h i (.trans hi (hfs g hg))] at hsearch
    have hall := hnone fun g => Below.all
    have hany := hnone fun g => Below.any
    omega

theorem searchGroup_of_not_searches {f : Filter} (h : f.searches = false) :
    searchGroup f.wildcard = [] := by
  unfold searches at h
  unfold searchGroup
  cases hw : f.wildcard with
  | none => rfl
  | some w => simpa [hw, groupUnless] using h

mutual

theorem everyPart_of_searchCount (join : Join) {f : Filter} (h : searchCount f = 0) :
    everyPart join f = f.memberWith expansion join := by
  have hcount := searchCount_eq f
  have hown : f.searches = false := by
    by_contra hsearch
    rw [Bool.not_eq_false] at hsearch
    rw [if_pos hsearch] at hcount
    omega
  have hgroup := searchGroup_of_not_searches hown
  match f with
  | ⟨field, operand, operator, subOperator, all, any, wildcard⟩ =>
    have hlists : searchCountAll all = 0 ∧ searchCountAll any = 0 := by
      dsimp only at hcount
      omega
    have hall := everyPartAll_of_searchCount hlists.1
    have hany := everyPartAny_of_searchCount .and hlists.2
    rw [everyPart, memberWith, hall, hany, hgroup, List.append_nil]
    rfl

theorem everyPartAll_of_searchCount {fs : List Filter} (h : searchCountAll fs = 0) :
    everyPartAll fs = allWith expansion fs := by
  match fs with
  | [] => rw [everyPartAll, allWith]
  | f :: rest =>
    rw [searchCountAll, Nat.add_eq_zero_iff] at h
    rw [everyPartAll, allWith, everyPart_of_searchCount .and h.1, everyPartAll_of_searchCount h.2]

theorem everyPartAny_of_searchCount (join : Join) {fs : List Filter} (h : searchCountAll fs = 0) :
    everyPartAny join fs = anyWith expansion join fs := by
  match fs with
  | [] => rw [everyPartAny, anyWith]
  | f :: rest =>
    rw [searchCountAll, Nat.add_eq_zero_iff] at h
    rw [everyPartAny, anyWith, everyPart_of_searchCount join h.1,
      everyPartAny_of_searchCount .or h.2]

end

/-- A tree is compiled in all its parts but for the searches of members: as if they carried none,
and so in every part exactly if none of them, however deep, searches any field. -/
theorem steps_eq_everyPart_iff (f : Filter) :
    f.steps = f.ownSearch.everyPart .and ∧
      (f.steps = f.everyPart .and ↔ ∀ g, Below g f → g.searches = false) := by
  refine ⟨steps_eq_everyPart_ownSearch f, ?_⟩
  rw [← searchCount_members_eq_zero]
  constructor
  · intro h
    have hgroups := groupsIn_everyPart_steps f
    rw [← h] at hgroups
    omega
  · intro h
    rw [Nat.add_eq_zero_iff] at h
    have hall := everyPartAll_of_searchCount h.1
    have hany := everyPartAny_of_searchCount .and h.2
    rw [steps_eq_memberWith]
    match f with
    | ⟨field, operand, operator, subOperator, all, any, wildcard⟩ =>
      dsimp only at hall hany
      rw [everyPart, memberWith, hall, hany]
      rfl

def searchInMember : Filter :=
  { all := [.condition "a" "=" (.num (.int 1)), { wildcard := some ⟨["name"], "x"⟩ }] }

/-- The search is not among the steps. -/
theorem steps_searchInMember :
    (∃ g, Below g searchInMember ∧ g.searches = true) ∧
    searchInMember.steps = [.group .and [.filter .and (.compare "a" "=" (.num (.int 1)))]] ∧
    searchInMember.everyPart .and =
      [.group .and [.filter .and (.compare "a" "=" (.num (.int 1))),
        .group .and [.filter .and (.compare "name" "like" (.str "%x%"))]]] := by
  refine ⟨⟨{ wildcard := some ⟨["name"], "x"⟩ }, .all ?_, rfl⟩, rfl, rfl⟩
  simp [searchInMember]

end RelationalQuery.Filter
