import PageCoverage.Router
import PageCoverage.Error

namespace PageCoverage

/-- How far a call has come. -/
inductive Progress (κ : Type) where
  | waiting (call : κ)
  | finished (result : Except CoverageError Value)

/-- A connection `σ` whose outstanding commands are calls `κ`. -/
class Session (σ : Type) (κ : outParam Type) where
  router : σ → Router
  withRouter : σ → Router → σ
  /-- Why nobody can listen to the events of a name now, if so. -/
  refusal? : σ → String → Option CoverageError
  send : σ → Command → κ × σ
  /-- Look for the answer to a call. -/
  poll : σ → κ → Progress κ × σ
  /-- Nobody waits for the answer any more. -/
  cancel : σ → κ → σ

namespace Session

variable {σ κ : Type} [Session σ κ]

def openSink (s : σ) : SinkId × σ :=
  let (sink, r) := (router s).openSink
  (sink, withRouter s r)

def closeSink (s : σ) (sink : SinkId) : σ := withRouter s ((router s).closeSink sink)

/-- Route the events of one name into a sink. -/
def subscribe (s : σ) (event : String) (sink : SinkId) : Except CoverageError (Subscription × σ) :=
  match refusal? s event with
  | some e => .error e
  | none =>
    let (sub, r) := (router s).subscribe event sink
    .ok (sub, withRouter s r)

/-- Undo a subscription. -/
def release (s : σ) (sub : Subscription) : σ := withRouter s ((router s).release sub)

end Session

end PageCoverage
