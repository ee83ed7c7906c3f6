import PageCoverage.Protocol
import PageCoverage.Text.Quoted

namespace PageCoverage

/-- The place of a sink in its router. -/
abbrev SinkId := Nat

/--
A queue of delivered events. Several listeners may share one, and it holds their events in the order
in which they were dispatched. A closed one takes no more.
-/
structure Sink where
  queue : List Event := []
  isOpen : Bool := true
  deriving Inhabited

/-- The wish to receive the events of one name. -/
structure Listener where
  event : String
  id : UInt64
  sink : SinkId
  deriving DecidableEq, Repr

/-- A handle on a listener. -/
structure Subscription where
  event : String
  id : UInt64
  deriving DecidableEq, Repr

/-- A handle as diagnostics show it. -/
def Subscription.describe (s : Subscription) : String :=
  "EventSubscription \x7b event: " ++ Text.quoted s.event ++ ", active: true \x7d"

/-- The listeners in subscription order, and the sinks they feed. -/
structure Router where
  nextId : UInt64 := 0
  listeners : List Listener := []
  sinks : List Sink := []
  deriving Inhabited

namespace Router

def openSink (r : Router) : SinkId × Router :=
  (r.sinks.length, { r with sinks := r.sinks ++ [{}] })

/-- Close a sink; what it holds is gone. -/
def closeSink (r : Router) (s : SinkId) : Router :=
  { r with sinks := r.sinks.modify s fun _ => ⟨[], false⟩ }

/-- Whether a sink takes events. -/
def isOpen (r : Router) (s : SinkId) : Bool := (r.sinks[s]?).any (·.isOpen)

def queue (r : Router) (s : SinkId) : List Event := (r.sinks[s]?).elim [] Sink.queue

/-- Whether some listener still feeds a sink. -/
def isFed (r : Router) (s : SinkId) : Bool := r.listeners.any (·.sink == s)

/-- Add a listener behind the others. -/
def subscribe (r : Router) (event : String) (s : SinkId) : Subscription × Router :=
  (⟨event, r.nextId⟩,
    { r with nextId := r.nextId + 1, listeners := r.listeners ++ [⟨event, r.nextId, s⟩] })

/-- Remove the listener of a handle, if it is still there. -/
def release (r : Router) (sub : Subscription) : Router :=
  { r with listeners := r.listeners.filter fun l => !(l.event == sub.event && l.id == sub.id) }

/-- Put an event behind those a sink holds. -/
def push (e : Event) (sinks : List Sink) (s : SinkId) : List Sink :=
  sinks.modify s fun k => { k with queue := k.queue ++ [e] }

def receivers (r : Router) (event : String) : List Listener :=
  r.listeners.filter fun l => l.event == event && r.isOpen l.sink

/-- Deliver an event to its listeners, and forget those whose sink is closed. The number tells how many
received it. -/
def dispatch (r : Router) (e : Event) : Nat × Router :=
  ((r.receivers e.method).length,
    { r with
      listeners := r.listeners.filter fun l => l.event != e.method || r.isOpen l.sink
      sinks := ((r.receivers e.method).map Listener.sink).foldl (push e) r.sinks })

/-- Take the oldest event out of a sink. -/
def take (r : Router) (s : SinkId) : Option Event × Router :=
  match r.queue s with
  | [] => (none, r)
  | e :: rest => (some e, { r with sinks := r.sinks.modify s fun k => { k with queue := rest } })

def listenerCount (r : Router) (event : String) : Nat := r.listeners.countP (·.event == event)

def clear (r : Router) : Router := { r with listeners := [] }

end Router

end PageCoverage
