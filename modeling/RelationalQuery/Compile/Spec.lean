import RelationalQuery.Compile.Filter
import RelationalQuery.Compile.Scope

/-! Specifications as steps. -/
namespace RelationalQuery

def CountInclude.body (node : CountInclude) : List Step :=
  (match node.filter with
    | some f => f.steps
    | none => []) ++ node.scopes.steps

def CountInclude.asLoad (node : CountInclude) : Load :=
  { relation := node.relation, counts := true, body := node.body }

inductive Section where
  | select
  | filter
  | order
  | includes
  | counts
  | scopes
deriving DecidableEq

def Section.all : List Section := [.select, .filter, .order, .includes, .counts, .scopes]

def selectSteps (select : List String) : List Step := [.project select]

def filterSteps : Option Filter → List Step
  | some f => f.steps
  | none => []

def orderSteps (order : List OrderItem) : List Step :=
  order.map fun item => .orderBy item.field (.ofToken item.direction)

def loadSteps (loads : List Load) : List Step :=
  if loads.isEmpty then [] else [.load loads]

def countSteps (counts : List CountInclude) : List Step :=
  if counts.isEmpty then [] else [.countRelated (counts.map CountInclude.asLoad)]

mutual

/-- The steps of a whole specification. A relation's level is compiled into the load itself. -/
def Spec.steps : Spec → List Step
  | ⟨select, filter, order, includes, counts, scopes⟩ =>
    selectSteps select ++ filterSteps filter ++ orderSteps order ++
    loadSteps (includeLoads includes) ++ countSteps counts ++ scopes.steps

def Spec.includeLoads : List Include → List Load
  | [] => []
  | ⟨relation, spec⟩ :: rest =>
    { relation, counts := false, body := Spec.steps spec } :: includeLoads rest

end

def Include.asLoad (node : Include) : Load :=
  { relation := node.relation, counts := false, body := node.spec.steps }

def Spec.sectionSteps (s : Spec) : Section → List Step
  | .select => selectSteps s.select
  | .filter => filterSteps s.filter
  | .order => orderSteps s.order
  | .includes => loadSteps (s.includes.map Include.asLoad)
  | .counts => countSteps s.counts
  | .scopes => s.scopes.steps

theorem Spec.includeLoads_eq (nodes : List Include) :
    includeLoads nodes = nodes.map Include.asLoad := by
  induction nodes with
  | nil => simp [includeLoads]
  | cons n rest ih => obtain ⟨r, s⟩ := n; simp [includeLoads, Include.asLoad, ih]

theorem Spec.steps_eq (s : Spec) : s.steps = Section.all.flatMap s.sectionSteps := by
  obtain ⟨select, filter, order, includes, counts, scopes⟩ := s
  simp [Spec.steps, Section.all, Spec.sectionSteps, Spec.includeLoads_eq]

end RelationalQuery
