import PageCoverage.Error
import PageCoverage.Resource.Usage

namespace PageCoverage

inductive Level where
  | debug
  | info
  | warn
  deriving DecidableEq, Repr

def Level.name : Level → String
  | .debug => "DEBUG"
  | .info => "INFO"
  | .warn => "WARN"

/-- An occurrence worth a log line. -/
inductive Notice where
  | enabled (kind : ResourceKind)
  | disabled (kind : ResourceKind) (resources : Nat)
  | cacheReset (kind : ResourceKind)
  /-- A source came for a cache that has been closed or reset since. -/
  | staleSource (kind : ResourceKind) (resource : ResourceId)
  | streamClosed (kind : ResourceKind)
  | registrationSkipped (kind : ResourceKind) (error : CoverageError)
  | fetchFailed (kind : ResourceKind) (url : String) (error : CoverageError)
  | stopFailed (error : CoverageError)
  | interrupted
  | malformedFrame (detail : String)
  | readFailed (detail : String)
  | writeFailed (detail : String)
  | disconnected
  deriving DecidableEq, Repr

namespace Notice

/-- The level a notice is logged at. -/
def level : Notice → Level
  | registrationSkipped _ _ | fetchFailed _ _ _ | stopFailed _ => .warn
  | malformedFrame _ | readFailed _ | writeFailed _ => .warn
  | interrupted => .info
  | _ => .debug

def message : Notice → String
  | enabled _ => "coverage enabled"
  | disabled _ _ => "coverage disabled"
  | cacheReset _ => "execution contexts cleared, cache reset"
  | staleSource _ _ => "discarding source fetched for a previous cache"
  | streamClosed _ => "event stream closed"
  | registrationSkipped _ e => "skipping registration: " ++ e.message
  | fetchFailed _ _ e => e.message
  | stopFailed e => "failed to stop JS coverage: " ++ e.message
  | interrupted => "interrupted, stopping coverage"
  | malformedFrame detail => "ignoring malformed debugger frame: " ++ detail
  | readFailed detail => "debugger socket read failed: " ++ detail
  | writeFailed detail => "debugger socket write failed: " ++ detail
  | disconnected => "debugger connection closed"

/-- What a notice tells besides its text. -/
def fields : Notice → Members
  | enabled kind | cacheReset kind | streamClosed kind => [("kind", .text kind.label)]
  | disabled kind resources => [("kind", .text kind.label), ("resources", .int resources)]
  | staleSource kind resource => [("kind", .text kind.label), ("resource", .text resource.text)]
  | registrationSkipped kind _ => [("kind", .text kind.label)]
  | fetchFailed kind url _ => [("kind", .text kind.label), ("url", .text url)]
  | _ => []

end Notice

end PageCoverage
