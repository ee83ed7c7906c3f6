import PageCoverage.Protocol
import PageCoverage.Settings
import PageCoverage.Resource.Usage
import PageCoverage.Schema.Decode

namespace PageCoverage

/-- A registration that passed the filters and waits for its source. -/
structure Registration where
  id : ResourceId
  url : String
  deriving DecidableEq, Repr

/--
The options of tracking one kind of resource, with what the kind contributes: the commands to send, and
how registrations, sources and usage are read.
-/
class Strategy (K : Type) where
  kind : ResourceKind
  registrationEvent : String
  resetOnNavigation : K → Bool
  enableCommands : K → List Command
  collectCommand : K → Command
  disableCommands : K → List Command
  /-- Read a registration; none where the resource is not tracked. -/
  registration : K → Value → Except CoverageError (Option Registration)
  fetchCommand : K → ResourceId → Command
  sourceText : K → Value → Except CoverageError String
  /-- The usage in the answer to the collect command. -/
  usage : K → Value → Except CoverageError UsageMap

/-- Decode what a command or an event of the given name carries. -/
def decodePayload (α : Type) [Coded α] (context : String) (v : Value) : Except CoverageError α :=
  (decode α v).mapError fun e => .payload context e.message

end PageCoverage
