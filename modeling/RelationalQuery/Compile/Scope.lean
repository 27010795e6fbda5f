import RelationalQuery.Building.Step
import RelationalQuery.Json.Printer
import RelationalQuery.Text.Split

/-! Scope declarations as calls. -/
namespace RelationalQuery

open Json (Value)

def splitCsv (csv : String) : List Value :=
  if csv = "" then [] else (Text.split ',' csv).map .str

def ScopeArgs.values : ScopeArgs → List Value
  | .none => []
  | .list items => items
  | .csv text => splitCsv text
  | .number n => [.str n.text]

/-- An entry `name:csv`; only its first colon counts. -/
def listedCall (entry : String) : String × List Value :=
  match Text.cut ':' entry with
  | some (name, csv) => (name, splitCsv csv)
  | none => (entry, [])

def ScopeDecl.calls : ScopeDecl → List (String × List Value)
  | .named scopes => scopes.map fun (name, args) => (name, args.values)
  | .listed entries => entries.map listedCall

def ScopeDecl.steps (decl : ScopeDecl) : List Step :=
  decl.calls.map fun (name, args) => .callScope name args

end RelationalQuery
