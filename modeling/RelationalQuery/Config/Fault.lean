/-! What can be wrong with a configuration. -/
namespace RelationalQuery

inductive IntegerFault where
  | empty
  | invalidDigit
  | tooLarge
deriving DecidableEq

def IntegerFault.message : IntegerFault → String
  | .empty => "cannot parse integer from empty string"
  | .invalidDigit => "invalid digit found in string"
  | .tooLarge => "number too large to fit in target type"

inductive ConfigFault where
  | emptyUrl
  | noConnections
  | badInteger (setting : String) (fault : IntegerFault)
  | badBoolean (setting : String)
  /-- A settings file that is no object of settings, or a setting of the wrong kind. -/
  | unreadable
deriving DecidableEq

def ConfigFault.message : ConfigFault → String
  | .emptyUrl => "database_url must not be empty"
  | .noConnections => "max_connections must be at least 1"
  | .badInteger setting fault => "Invalid " ++ setting ++ ": " ++ fault.message
  | .badBoolean setting =>
    "Invalid " ++ setting ++ ": provided string was not `true` or `false`"
  | .unreadable => "settings cannot be read"

end RelationalQuery
