import Mathlib.Data.List.SplitBy
import RelationalQuery.Sql.Condition

/-! What a list of clauses says, given what the atomic conditions in it say: `and` binds tighter
than `or`, groups stand in parentheses, and the join of a list's first clause is dropped. -/
namespace RelationalQuery

def joinedValue (sofar : Bool) : List (Join × Bool) → Bool
  | [] => sofar
  | (.and, b) :: rest => joinedValue (sofar && b) rest
  | (.or, b) :: rest => sofar || joinedValue b rest

def listValue : List (Join × Bool) → Bool
  | [] => true
  | (_, b) :: rest => joinedValue b rest

/-- Whether everything holds in one of the runs that a list falls into, a new one at every item
that starts one; nothing to hold is true. -/
def someRun {α : Type} (starts value : α → Bool) (items : List α) : Bool :=
  items.isEmpty || (items.splitBy fun _ item => !starts item).any fun run => run.all value

section
variable {α : Type} (starts value : α → Bool)

def asJoined (item : α) : Join × Bool := (if starts item then .or else .and, value item)

theorem any_splitBy_loop (items : List α) (item : α) (run : List α) (runs : List (List α)) :
    (List.splitBy.loop (fun _ item => !starts item) items item run runs).any (·.all value) =
      (runs.any (·.all value) ||
        joinedValue (run.all value && value item) (items.map (asJoined starts value))) := by
  induction items generalizing item run runs with
  | nil =>
    have hrun : (run.reverse ++ [item]).all value = (run.all value && value item) := by simp
    simp [List.splitBy.loop, joinedValue, hrun, Bool.or_comm]
  | cons next items ih =>
    have hrun : (run.reverse ++ [item]).all value = (run.all value && value item) := by simp
    by_cases h : starts next
    · simp [List.splitBy.loop, joinedValue, asJoined, h, ih, hrun, Bool.or_assoc, Bool.or_left_comm]
    · simp [List.splitBy.loop, joinedValue, asJoined, h, ih, Bool.and_comm]

/-- Precedence is a matter of runs between `or`s. -/
theorem listValue_map_asJoined (items : List α) :
    listValue (items.map (asJoined starts value)) = someRun starts value items := by
  cases items with
  | nil => rfl
  | cons item items =>
    have hloop := any_splitBy_loop starts value items item [] []
    simp only [List.any_nil, Bool.false_or, List.all_nil, Bool.true_and] at hloop
    simp only [List.map_cons, asJoined, listValue, someRun, List.isEmpty_cons, Bool.false_or]
    exact hloop.symm

end

theorem joinedValue_append_of_and {entries : List (Join × Bool)} (sofar : Bool)
    (h : ∀ e ∈ entries, e.1 = .and) (rest : List (Join × Bool)) :
    joinedValue sofar (entries ++ rest) = joinedValue (sofar && entries.all Prod.snd) rest := by
  induction entries generalizing sofar with
  | nil => simp
  | cons e entries ih =>
    obtain ⟨join, b⟩ := e
    have hjoin : join = .and := h (join, b) (by simp)
    subst hjoin
    have ih := ih (sofar && b) fun e he => h e (by simp [he])
    simpa [joinedValue, Bool.and_assoc] using ih

theorem listValue_of_and {entries : List (Join × Bool)} (h : ∀ e ∈ entries, e.1 = .and) :
    listValue entries = entries.all Prod.snd := by
  cases entries with
  | nil => rfl
  | cons e entries =>
    have htail : ∀ e ∈ entries, e.1 = .and := fun e he => h e (by simp [he])
    have hrest := joinedValue_append_of_and e.2 htail []
    simpa [listValue, joinedValue] using hrest

namespace Sql

/-! ### Clauses -/

def Clause.isAlternative : Clause → Bool
  | ⟨.or, .group [⟨.and, .compare ..⟩, ⟨.and, .exists ..⟩]⟩ => true
  | ⟨.or, .group [⟨.and, .compare ..⟩, ⟨.and, .count ..⟩]⟩ => true
  | _ => false

/-- Conditions that are not read further: a condition on a polymorphic relation is a group, but
is one condition. -/
def Condition.isAtomic : Condition → Bool
  | .group clauses => !clauses.isEmpty && clauses.all Clause.isAlternative
  | _ => true

section
variable (truth : Condition → Bool)

mutual

def Condition.value : Condition → Bool
  | .group clauses =>
    if (Condition.group clauses).isAtomic then truth (.group clauses)
    else listValue (values clauses)
  | c => truth c

def values : List Clause → List (Join × Bool)
  | [] => []
  | ⟨join, c⟩ :: rest => (join, c.value) :: values rest

end

def clausesValue (clauses : List Clause) : Bool := listValue (values truth clauses)

@[simp] theorem values_append (xs ys : List Clause) :
    values truth (xs ++ ys) = values truth xs ++ values truth ys := by
  induction xs with
  | nil => simp [values]
  | cons x xs ih =>
    obtain ⟨join, c⟩ := x
    simp [values, ih]

theorem mem_values {clauses : List Clause} {e : Join × Bool} (h : e ∈ values truth clauses) :
    ∃ cl ∈ clauses, cl.join = e.1 := by
  induction clauses with
  | nil => simp [values] at h
  | cons cl clauses ih =>
    obtain ⟨join, c⟩ := cl
    rcases List.mem_cons.1 h with rfl | h
    · exact ⟨⟨join, c⟩, by simp, rfl⟩
    · obtain ⟨cl, hm, hcl⟩ := ih h
      exact ⟨cl, by simp [hm], hcl⟩

variable {truth}

theorem values_eq_singleton {clauses : List Clause} {join : Join} {b : Bool}
    (h : values truth clauses = [(join, b)]) :
    ∃ c, clauses = [⟨join, c⟩] ∧ c.value truth = b := by
  match clauses with
  | [] => simp [values] at h
  | [⟨join', c⟩] =>
    simp only [values, List.cons.injEq, Prod.mk.injEq, and_true] at h
    obtain ⟨rfl, hc⟩ := h
    exact ⟨c, rfl, hc⟩
  | ⟨_, _⟩ :: ⟨_, _⟩ :: _ => simp [values] at h

theorem Condition.value_of_isAtomic {c : Condition} (h : c.isAtomic = true) :
    c.value truth = truth c := by
  cases c with
  | group clauses => simp [Condition.value, h]
  | _ => rfl

end

def OrAtomic (clauses : List Clause) : Prop :=
  ∀ cl ∈ clauses, cl.join = .or → cl.condition.isAtomic = true

/-- So such a group is not taken for one condition. -/
theorem OrAtomic.isAtomic_group {clauses : List Clause} (h : OrAtomic clauses) :
    (Condition.group clauses).isAtomic = false := by
  cases clauses with
  | nil => rfl
  | cons cl rest =>
    have hatomic := h cl (by simp)
    have hcl : cl.isAlternative = false := by
      unfold Clause.isAlternative
      split
      · have := hatomic rfl
        simp [Clause.condition, Condition.isAtomic, Clause.isAlternative] at this
      · have := hatomic rfl
        simp [Clause.condition, Condition.isAtomic, Clause.isAlternative] at this
      · rfl
    simp [Condition.isAtomic, hcl]

end Sql
end RelationalQuery
