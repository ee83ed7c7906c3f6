import PageCoverage.Notice
import PageCoverage.Session.Basic
import PageCoverage.Session.Frame

namespace PageCoverage

/-- Something on its way to the target. -/
inductive Outgoing where
  | command (id : UInt64) (c : Command)
  /-- The wish to close the connection. -/
  | close

/-- Whether frames can still be sent. -/
inductive Wire where
  | ready
  /-- The wish to close has been sent; nothing may follow it. -/
  | closing
  | broken
  deriving DecidableEq, Repr

/-- A call on a socket. -/
inductive SocketCall where
  | refused
  | sent (id : UInt64)
  deriving DecidableEq, Repr

inductive Ending where
  | closed
  | lost (detail : String)
  deriving DecidableEq, Repr

/--
A connection to a target, made of text frames. Commands are numbered; the answer to one is the first
frame with its number that comes while it is waited for.
-/
structure Socket where
  router : Router := {}
  nextId : UInt64 := 1
  isClosed : Bool := false
  /-- The calls that wait for an answer, with their methods. -/
  pending : List (UInt64 × String) := []
  /-- The answers that have come and have not been looked at. -/
  answers : List (UInt64 × Except CoverageError Value) := []
  /-- What waits to be written. -/
  outbox : List Outgoing := []
  wire : Wire := .ready
  log : List Notice := []
  deriving Inhabited

/-- The entries of a table except those of one key. -/
def withoutKey {α : Type} (id : UInt64) (table : List (UInt64 × α)) : List (UInt64 × α) :=
  table.filter (·.1 != id)

namespace Socket

def note (s : Socket) (n : Notice) : Socket := { s with log := s.log ++ [n] }

/-- The number of the next command; it is used up even where the command is not sent. -/
def takeId (s : Socket) : UInt64 × Socket := (s.nextId, { s with nextId := s.nextId + 1 })

/-- Register a command and hand it to the writer. -/
def send (s : Socket) (c : Command) : SocketCall × Socket :=
  let (id, s) := s.takeId
  if s.isClosed || s.wire == .broken then (.refused, s)
  else
    (.sent id,
      { s with pending := (id, c.method) :: withoutKey id s.pending, outbox := s.outbox ++ [.command id c] })

/-- Look for the answer to a call. A call without an answer that is not waited for any more has failed
with the connection. -/
def poll (s : Socket) : SocketCall → Progress SocketCall × Socket
  | .refused => (.finished (.error .connectionClosed), s)
  | .sent id =>
    match s.answers.lookup id with
    | some result => (.finished result, { s with answers := withoutKey id s.answers })
    | none =>
      if (s.pending.lookup id).isSome then (.waiting (.sent id), s)
      else (.finished (.error .connectionClosed), s)

/-- Forget a call. -/
def cancel (s : Socket) : SocketCall → Socket
  | .refused => s
  | .sent id => { s with pending := withoutKey id s.pending, answers := withoutKey id s.answers }

/-- Ask the target to close the connection. -/
def close (s : Socket) : Socket :=
  if s.wire == .broken then s else { s with outbox := s.outbox ++ [.close] }

/-- Write one thing. Nothing can be written behind the wish to close: the writer ends with the attempt,
and whatever else waits is lost. -/
def write (s : Socket) (o : Outgoing) : List (UInt64 × Command) × Socket :=
  match s.wire, o with
  | .ready, .command id c => ([(id, c)], s)
  | .ready, .close => ([], { s with wire := .closing })
  | .closing, _ => ([], { s with wire := .broken }.note (.writeFailed "the connection is closing"))
  | .broken, _ => ([], s)

/-- Write what waits to be written, and give the commands that have gone out. -/
def flush (s : Socket) : List (UInt64 × Command) × Socket :=
  s.outbox.foldl
    (fun (written, s) o =>
      let (more, s) := s.write o
      (written ++ more, s))
    ([], { s with outbox := [] })

/-- The answer to a pending call has come; an answer to any other call is ignored. -/
def resolve (s : Socket) (id : UInt64) (f : Frame) : Socket :=
  match s.pending.lookup id with
  | none => s
  | some method =>
    { s with pending := withoutKey id s.pending, answers := (id, f.outcome method) :: s.answers }

/-- Read a frame: an answer if it has a number, otherwise an event if it has a method. -/
def accept (s : Socket) (f : Frame) : Socket :=
  match f.id, f.method with
  | some id, _ => s.resolve id f
  | none, some method => { s with router := (s.router.dispatch ⟨method, f.params⟩).2 }
  | none, none => s

/-- Read the text of a frame. One that cannot be read is ignored. -/
def receive (s : Socket) (text : String) : Socket :=
  match Frame.read text with
  | .ok f => s.accept f
  | .error e => s.note (.malformedFrame e.message)

/-- The connection is gone: whoever waits for an answer is told so, and nobody listens any more. -/
def shutDown (s : Socket) : Socket :=
  { s with isClosed := true, pending := [], router := s.router.clear }.note .disconnected

/-- The connection ends. -/
def finish (s : Socket) : Ending → Socket
  | .closed => s.shutDown
  | .lost detail => (s.note (.readFailed detail)).shutDown

/-- The socket as diagnostics show it. -/
def describe (s : Socket) : String :=
  "WebSocketSession \x7b closed: " ++ (if s.isClosed then "true" else "false") ++ ", .. \x7d"

instance : Session Socket SocketCall where
  router := Socket.router
  withRouter s r := { s with router := r }
  refusal? s _ := if s.isClosed then some .connectionClosed else none
  send := send
  poll := poll
  cancel := cancel

end Socket

end PageCoverage
