import RelationalQuery.Config.Fault
import RelationalQuery.Spec.Fault

/-! Everything that can stop a query, from the reading of its specification to its execution. -/
namespace RelationalQuery

inductive QueryError where
  | malformed (fault : SpecFault)
  | unknownScope (scope entity : String)
  | unknownRelation (relation entity : String)
  | unknownModel (name : String)
  /-- The server answered with this message. -/
  | database (message : String)
  /-- A polymorphic relation was used without saying which types it may lead to. -/
  | untypedRelation (relation entity : String)
  /-- Scopes call scopes deeper than any finite chain of them would. -/
  | endlessScope (scope entity : String)
  /-- Relations load each other deeper than that. -/
  | endlessLoad (entity : String)
  | bindingsMissing
  | bindingsLeft
  | failed (message : String)
  | configuration (fault : ConfigFault)

def QueryError.message : QueryError → String
  | .malformed fault => "Malformed query specification: " ++ fault.message
  | .unknownScope scope entity => "Unknown scope '" ++ scope ++ "' on " ++ entity
  | .unknownRelation relation entity => "Unknown relation '" ++ relation ++ "' on " ++ entity
  | .unknownModel name => "Unknown model: " ++ name
  | .database message => "Database error: error returned from database: " ++ message
  | .untypedRelation relation entity =>
    "Execution error: relation '" ++ relation ++ "' on " ++ entity ++
      " is polymorphic and needs a related type set"
  | .endlessScope scope entity =>
    "Execution error: scope '" ++ scope ++ "' on " ++ entity ++ " does not end"
  | .endlessLoad entity => "Execution error: loading relations of " ++ entity ++ " does not end"
  | .bindingsMissing => "Execution error: query has more placeholders than bindings"
  | .bindingsLeft => "Execution error: query has more bindings than placeholders"
  | .failed message => "Execution error: " ++ message
  | .configuration fault => "Configuration error: " ++ fault.message

end RelationalQuery
