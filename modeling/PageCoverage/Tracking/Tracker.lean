import PageCoverage.Cache
import PageCoverage.Notice
import PageCoverage.Range.Sweep
import PageCoverage.Session.Request
import PageCoverage.Strategy.Basic

namespace PageCoverage

/-- What an enabled tracker holds of its session: a sink with the subscriptions that feed it. -/
structure Attachment where
  sink : SinkId
  subscriptions : List Subscription
  /-- Whether events are still read from the sink. -/
  reading : Bool := true
  deriving DecidableEq, Repr

/-- A source on its way. It is stored only under the generation it was asked for. -/
structure Fetch (K κ : Type) where
  options : K
  resource : Registration
  generation : UInt64
  request : Request κ

/-- Where a tracker is in its life. -/
inductive Phase (K κ : Type) where
  | idle
  | starting (options : K) (attachment : Attachment) (batch : List (Request κ))
  | enabled (options : K) (attachment : Attachment)
  /-- The first request of the batch collects the usage, the others disable. -/
  | stopping (options : K) (batch : List (Request κ))

/--
A tracker of one kind of resource. Fetches belong to it until they finish, in any phase and in any
order.
-/
structure Tracker (K κ : Type) where
  cache : Cache := {}
  phase : Phase K κ := .idle
  fetches : List (Fetch K κ) := []

namespace Tracker

variable {K κ : Type}

/-- Whether coverage is being collected. -/
def isEnabled (t : Tracker K κ) : Bool :=
  match t.phase with
  | .enabled _ _ => true
  | _ => false

def options? (t : Tracker K κ) : Option K :=
  match t.phase with
  | .enabled options _ => some options
  | _ => none

/-- What the tracker holds of its session. -/
def attachment? (t : Tracker K κ) : Option Attachment :=
  match t.phase with
  | .starting _ a _ | .enabled _ a => some a
  | _ => none

/-- The number of resources whose source is there. -/
def resourceCount (t : Tracker K κ) : Nat := t.cache.size

/-- The tracker as diagnostics show it. -/
def describe [Strategy K] (t : Tracker K κ) : String :=
  "ResourceCoverageTracker \x7b kind: " ++ Text.quoted (Strategy.kind K).label ++ ", enabled: " ++
    (if t.isEnabled then "true" else "false") ++ " \x7d"

end Tracker

/-- How a start or a stop ended. -/
inductive Outcome where
  | started (result : Except CoverageError Unit)
  | stopped (result : Except CoverageError (List Entry))

/-- The entry of a record: the covered text of the usage reported for it, if any was. -/
def Record.entry (r : Record) (usage : Option ResourceUsage) : Entry :=
  let u := usage.getD {}
  { url := r.url, text := r.source, ranges := flatten u.ranges, raw := u.raw }

/-- One entry for each record, in order. The usage of an id goes to the first record that carries it. -/
def buildEntries : List Record → UsageMap → List Entry
  | [], _ => []
  | r :: rest, usage => r.entry (UsageMap.get? usage r.id) :: buildEntries rest (UsageMap.erase r.id usage)

end PageCoverage
