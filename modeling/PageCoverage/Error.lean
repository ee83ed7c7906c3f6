namespace PageCoverage

/-- The kinds of resources that coverage is collected for. -/
inductive ResourceKind where
  | script
  | stylesheet
  deriving DecidableEq, Repr, Inhabited

def ResourceKind.label : ResourceKind → String
  | .script => "JS"
  | .stylesheet => "CSS"

/-- What went wrong while collecting coverage. -/
inductive CoverageError where
  /-- A start while a collection was running. -/
  | alreadyEnabled (kind : ResourceKind)
  /-- A stop while none was running. -/
  | notEnabled (kind : ResourceKind)
  | fetch (resource message : String)
  | command (method message : String)
  /-- A response or an event could not be decoded. -/
  | payload (context message : String)
  | connectionFailed (message : String)
  /-- The connection went away while a command was pending. -/
  | connectionClosed
  /-- Settings that cannot be used. -/
  | config (message : String)
  | io (message : String)
  | json (message : String)
  | yaml (message : String)
  deriving DecidableEq, Repr

namespace CoverageError

def message : CoverageError → String
  | alreadyEnabled kind => kind.label ++ " coverage is already enabled"
  | notEnabled kind => kind.label ++ " coverage is not enabled"
  | fetch resource message => "Failed to fetch source for resource " ++ resource ++ ": " ++ message
  | command method message => "Protocol command " ++ method ++ " failed: " ++ message
  | payload context message => "Invalid " ++ context ++ " payload: " ++ message
  | connectionFailed message => "Failed to connect to debugging target: " ++ message
  | connectionClosed => "Debugging connection closed"
  | config message => "Configuration error: " ++ message
  | io message => "I/O error: " ++ message
  | json message => "JSON error: " ++ message
  | yaml message => "YAML error: " ++ message

/-- Whether the target rejected or dropped a command. -/
def isProtocolFailure : CoverageError → Bool
  | command _ _ | connectionClosed | connectionFailed _ => true
  | _ => false

end CoverageError

end PageCoverage
