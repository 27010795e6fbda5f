import RelationalQuery.Compile.Filter
import RelationalQuery.Proofs.Sql.Precedence
import RelationalQuery.Sql.Builder

/-! What a tree of conditions says, given what the atomic conditions say that it adds to a query.

A list of which some member must hold falls into blocks. A member with a direct condition starts a
block, one that only has lists of its own belongs to the block before it, and one block must hold
in full. -/
namespace RelationalQuery.Filter

open Sql

def operandBody (x : Expansion) (operator name : String) :
    Operand Filter → Except SpecFault (List Step)
  | .plain v => plainConstraint x operator name v
  | .constraint c => .ok (stepsWith x c)

theorem conditionWith_eq (x : Expansion) (join : Join) (field : Option String)
    (operand : Operand Filter) (operator subOperator : String) :
    conditionWith x join field operand operator subOperator =
      match field.filter (· ≠ "") with
      | none => []
      | some name =>
        [conditionStep join name operator subOperator operand.value
          (operandBody x operator name operand)] := by
  cases operand <;> rfl

theorem conditionSteps_of_no_field {f : Filter} (h : f.conditionField = none) (join : Join) :
    f.conditionSteps join = [] := by
  unfold conditionField at h
  rw [conditionSteps, conditionWith_eq, h]

mutual

def subfilters : Filter → List Filter
  | f@⟨_, _, _, _, all, any, _⟩ => f :: (subfiltersAll all ++ subfiltersAll any)

def subfiltersAll : List Filter → List Filter
  | [] => []
  | f :: rest => f.subfilters ++ subfiltersAll rest

end

/-- The filters that a tree is compiled from. Its own search stands for more of them, those of its
members are not compiled. -/
def compiledFilters (f : Filter) : List Filter :=
  f.subfilters ++ f.wildcard.elim [] fun w => subfiltersAll w.members

mutual

def contributes : Filter → Bool
  | f@⟨_, _, _, _, all, any, _⟩ =>
    f.conditionField.isSome || anyContributes all || anyContributes any

def anyContributes : List Filter → Bool
  | [] => false
  | f :: rest => f.contributes || anyContributes rest

end

section
variable (q : Query)

/-- What a filter's direct part adds to queries like `q`. The form joined with `or` is the one that
looks at what kind of relation it is about. -/
def directCondition (f : Filter) : Option Condition :=
  match Query.run (f.conditionSteps .or) q.nested with
  | .ok _ r => r.clauses.head?.map Clause.condition
  | .error .. => none

/-- No filter with a field is without a condition. -/
def AllFound (filters : List Filter) : Prop :=
  ∀ f ∈ filters, f.conditionField.isSome → ∃ c, f.directCondition q = some c

variable (truth : Condition → Bool)

def directValue (f : Filter) : Bool := (f.directCondition q).all truth

def someBlock (members : List (Bool × Bool)) : Bool := someRun Prod.fst Prod.snd members

mutual

/-- A member of a group. Its wildcard is not compiled. -/
def memberValue : Filter → Bool
  | f@⟨_, _, _, _, all, any, _⟩ =>
    f.directValue q truth && allValue all && someBlock (memberValues any)

def allValue : List Filter → Bool
  | [] => true
  | f :: rest => f.memberValue && allValue rest

def memberValues : List Filter → List (Bool × Bool)
  | [] => []
  | f :: rest =>
    if f.contributes then (f.conditionField.isSome, f.memberValue) :: memberValues rest
    else memberValues rest

end

def value (f : Filter) : Bool :=
  f.memberValue q truth &&
  match f.wildcard with
  | some w => someBlock (memberValues q truth w.members)
  | none => true

/-! ### What is added, clause by clause -/

def directEntries (join : Join) (f : Filter) : List (Join × Bool) :=
  if f.conditionField.isSome then [(join, f.directValue q truth)] else []

def groupEntries (entries : List (Join × Bool)) : List (Join × Bool) :=
  if entries.isEmpty then [] else [(.and, listValue entries)]

mutual

def memberEntries (join : Join) : Filter → List (Join × Bool)
  | f@⟨_, _, _, _, all, any, _⟩ =>
    f.directEntries q truth join ++
      (groupEntries (allEntries all) ++ groupEntries (anyEntries .and any))

def allEntries : List Filter → List (Join × Bool)
  | [] => []
  | f :: rest => f.memberEntries .and ++ allEntries rest

def anyEntries (join : Join) : List Filter → List (Join × Bool)
  | [] => []
  | f :: rest => f.memberEntries join ++ anyEntries .or rest

end

def ownEntries (f : Filter) : List (Join × Bool) :=
  groupEntries (allEntries q truth f.all) ++ groupEntries (anyEntries q truth .and f.any)

theorem memberEntries_eq (join : Join) (f : Filter) :
    f.memberEntries q truth join = f.directEntries q truth join ++ f.ownEntries q truth := by
  cases f
  simp only [memberEntries, ownEntries]

theorem fst_of_mem_groupEntries {entries : List (Join × Bool)} {e : Join × Bool}
    (h : e ∈ groupEntries entries) : e.1 = .and := by
  unfold groupEntries at h
  split at h
  · cases h
  · rw [List.mem_singleton.1 h]

theorem fst_of_mem_ownEntries {f : Filter} {e : Join × Bool} (h : e ∈ f.ownEntries q truth) :
    e.1 = .and := by
  rcases List.mem_append.1 h with h | h
  · exact fst_of_mem_groupEntries h
  · exact fst_of_mem_groupEntries h

@[simp] theorem all_groupEntries (entries : List (Join × Bool)) :
    (groupEntries entries).all Prod.snd = listValue entries := by
  cases entries with
  | nil => rfl
  | cons e entries => simp [groupEntries]

@[simp] theorem groupEntries_eq_nil (entries : List (Join × Bool)) :
    groupEntries entries = [] ↔ entries = [] := by
  cases entries with
  | nil => simp [groupEntries]
  | cons e entries => simp [groupEntries]

theorem directEntries_eq_nil (join : Join) (f : Filter) :
    f.directEntries q truth join = [] ↔ f.conditionField.isSome = false := by
  unfold directEntries
  cases f.conditionField.isSome <;> simp

theorem directValue_of_no_field {f : Filter} (h : f.conditionField = none) :
    f.directValue q truth = true := by
  have hcondition : f.directCondition q = none := by
    unfold directCondition
    rw [conditionSteps_of_no_field h]
    rfl
  simp [directValue, hcondition]

theorem all_directEntries (join : Join) (f : Filter) :
    (f.directEntries q truth join).all Prod.snd = f.directValue q truth := by
  unfold directEntries
  cases h : f.conditionField with
  | none => simp [directValue_of_no_field q truth h]
  | some name => simp

/-! ### Clauses and members agree -/

mutual

theorem memberEntries_eq_nil (join : Join) (f : Filter) :
    f.memberEntries q truth join = [] ↔ f.contributes = false := by
  match f with
  | ⟨field, operand, operator, subOperator, all, any, wildcard⟩ =>
    have hall := allEntries_eq_nil all
    have hany := anyEntries_eq_nil .and any
    rw [memberEntries, contributes]
    simp only [List.append_eq_nil_iff, directEntries_eq_nil, groupEntries_eq_nil, hall, hany,
      Bool.or_eq_false_iff, and_assoc]

theorem allEntries_eq_nil (fs : List Filter) :
    allEntries q truth fs = [] ↔ anyContributes fs = false := by
  match fs with
  | [] => simp [allEntries, anyContributes]
  | f :: rest =>
    have hf := memberEntries_eq_nil .and f
    have hrest := allEntries_eq_nil rest
    simp [allEntries, anyContributes, hf, hrest]

theorem anyEntries_eq_nil (join : Join) (fs : List Filter) :
    anyEntries q truth join fs = [] ↔ anyContributes fs = false := by
  match fs with
  | [] => simp [anyEntries, anyContributes]
  | f :: rest =>
    have hf := memberEntries_eq_nil join f
    have hrest := anyEntries_eq_nil .or rest
    simp [anyEntries, anyContributes, hf, hrest]

end

theorem fst_of_mem_memberEntries {f : Filter} {e : Join × Bool}
    (h : e ∈ f.memberEntries q truth .and) : e.1 = .and := by
  rw [memberEntries_eq, List.mem_append] at h
  rcases h with h | h
  · unfold directEntries at h
    split at h
    · rw [List.mem_singleton.1 h]
    · cases h
  · exact fst_of_mem_ownEntries q truth h

theorem fst_of_mem_allEntries {fs : List Filter} {e : Join × Bool}
    (h : e ∈ allEntries q truth fs) : e.1 = .and := by
  induction fs with
  | nil => simp [allEntries] at h
  | cons f rest ih =>
    rw [allEntries, List.mem_append] at h
    rcases h with h | h
    · exact fst_of_mem_memberEntries q truth h
    · exact ih h

/-- A member after the first: its direct condition starts a run, its groups do not. -/
theorem joinedValue_memberEntries {f : Filter} (sofar : Bool) (rest : List (Join × Bool))
    (hvalue : (f.memberEntries q truth .or).all Prod.snd = f.memberValue q truth) :
    joinedValue sofar (f.memberEntries q truth .or ++ rest) =
      if f.conditionField.isSome then sofar || joinedValue (f.memberValue q truth) rest
      else joinedValue (sofar && f.memberValue q truth) rest := by
  have hown : ∀ e ∈ f.ownEntries q truth, e.1 = .and := fun e => fst_of_mem_ownEntries q truth
  rw [← hvalue, memberEntries_eq, List.append_assoc, List.all_append, all_directEntries]
  unfold directEntries
  cases h : f.conditionField with
  | none =>
    simp [joinedValue_append_of_and sofar hown, directValue_of_no_field q truth h]
  | some name =>
    simp [joinedValue, joinedValue_append_of_and _ hown]

/-- The first member that adds something starts a run in any case. -/
theorem listValue_memberEntries {f : Filter} (join : Join) (rest : List (Join × Bool))
    (hvalue : (f.memberEntries q truth join).all Prod.snd = f.memberValue q truth)
    (hf : f.contributes = true) :
    listValue (f.memberEntries q truth join ++ rest) =
      joinedValue (f.memberValue q truth) rest := by
  have hne : f.memberEntries q truth join ≠ [] := by
    rw [ne_eq, memberEntries_eq_nil, hf]
    simp
  have htail : ∀ e ∈ (f.memberEntries q truth join).tail, e.1 = .and := by
    intro e he
    rw [memberEntries_eq] at he
    unfold directEntries at he
    split at he
    · exact fst_of_mem_ownEntries q truth he
    · exact fst_of_mem_ownEntries q truth (List.mem_of_mem_tail he)
  rw [← hvalue]
  generalize f.memberEntries q truth join = entries at hne htail ⊢
  cases entries with
  | nil => exact absurd rfl hne
  | cons e entries => exact joinedValue_append_of_and e.2 htail rest

mutual

theorem all_memberEntries (join : Join) (f : Filter) :
    (f.memberEntries q truth join).all Prod.snd = f.memberValue q truth := by
  match f with
  | ⟨field, operand, operator, subOperator, all, any, wildcard⟩ =>
    have hall := all_allEntries all
    have hany := listValue_anyEntries .and any
    have hand : listValue (allEntries q truth all) = (allEntries q truth all).all Prod.snd :=
      listValue_of_and fun _ => fst_of_mem_allEntries q truth
    simp only [memberEntries, memberValue, List.all_append, all_directEntries, all_groupEntries,
      hand, hall, hany, Bool.and_assoc]

theorem all_allEntries (fs : List Filter) :
    (allEntries q truth fs).all Prod.snd = allValue q truth fs := by
  match fs with
  | [] => rfl
  | f :: rest =>
    have hf := all_memberEntries .and f
    have hrest := all_allEntries rest
    simp only [allEntries, allValue, List.all_append, hf, hrest]

theorem joinedValue_anyEntries (sofar : Bool) (fs : List Filter) :
    joinedValue sofar (anyEntries q truth .or fs) =
      joinedValue sofar ((memberValues q truth fs).map (asJoined Prod.fst Prod.snd)) := by
  match fs with
  | [] => rfl
  | f :: rest =>
    have hf := all_memberEntries .or f
    rw [anyEntries, memberValues]
    by_cases hc : f.contributes
    · -- It starts a block or goes on with the one before it.
      rw [joinedValue_memberEntries q truth sofar _ hf, if_pos hc]
      by_cases hd : f.conditionField.isSome
      · simp [asJoined, joinedValue, hd, joinedValue_anyEntries _ rest]
      · simp [asJoined, joinedValue, hd, joinedValue_anyEntries _ rest]
    · have hnone : f.memberEntries q truth .or = [] := by
        simpa [hc] using memberEntries_eq_nil q truth .or f
      rw [hnone, if_neg hc]
      exact joinedValue_anyEntries sofar rest

theorem listValue_anyEntries (join : Join) (fs : List Filter) :
    listValue (anyEntries q truth join fs) = someBlock (memberValues q truth fs) := by
  rw [someBlock, ← listValue_map_asJoined]
  match fs with
  | [] => rfl
  | f :: rest =>
    have hf := all_memberEntries join f
    rw [anyEntries, memberValues]
    by_cases hc : f.contributes
    · -- The first that adds something: from here on the joins of later members count.
      rw [listValue_memberEntries q truth join _ hf hc, if_pos hc]
      exact joinedValue_anyEntries _ rest
    · have hnone : f.memberEntries q truth join = [] := by
        simpa [hc] using memberEntries_eq_nil q truth join f
      have hrest := listValue_anyEntries .or rest
      rw [someBlock, ← listValue_map_asJoined] at hrest
      rw [hnone, if_neg hc]
      exact hrest

end

end

end RelationalQuery.Filter
