import PageCoverage.Session.Basic

namespace PageCoverage

/-- How a method is answered. -/
inductive Reply where
  | fixed (result : Value)
  /-- The parameters come back as the member `echo`. -/
  | echo
  | reject (message : String)
  /-- The parameters decide. -/
  | computed (answer : Value → Except CoverageError Value)

/-- A barrier for the commands of one method, or for those with given parameters. -/
structure Gate where
  method : String
  params : Option Value
  isOpen : Bool := false

/-- Whether a gate is in the way of a command. -/
def Gate.matchesCommand (g : Gate) (c : Command) : Bool :=
  g.method == c.method && g.params.all (· == c.params)

/-- A command that has been sent, with the gates it still has to pass. -/
structure HeldCall where
  command : Command
  gates : List Nat

/-- A target made of prepared answers. Gates are known by their place and are never removed. -/
structure StandIn where
  router : Router := {}
  replies : List (String × Reply) := []
  gates : List Gate := []
  history : List Command := []
  scriptSources : List (String × String) := []
  sheetTexts : List (String × String) := []
  deriving Inhabited

namespace StandIn

/-- Answer a method from now on. -/
def respond (s : StandIn) (method : String) (r : Reply) : StandIn :=
  { s with replies := (method, r) :: s.replies }

/-- Hold commands back until the gate is opened. -/
def hold (s : StandIn) (method : String) (params : Option Value) : Nat × StandIn :=
  (s.gates.length, { s with gates := s.gates ++ [{ method, params }] })

/-- Open a gate. It stays open. -/
def openGate (s : StandIn) (gate : Nat) : StandIn :=
  { s with gates := s.gates.modify gate fun g => { g with isOpen := true } }

/-- Whether a gate lets commands pass. -/
def isPassable (s : StandIn) (gate : Nat) : Bool := (s.gates[gate]?).all (·.isOpen)

def addScript (s : StandIn) (id source : String) : StandIn :=
  { s with scriptSources := (id, source) :: s.scriptSources }

def addStylesheet (s : StandIn) (id text : String) : StandIn :=
  { s with sheetTexts := (id, text) :: s.sheetTexts }

/-- Deliver an event. The number tells how many received it. -/
def emit (s : StandIn) (event : String) (params : Value) : Nat × StandIn :=
  let (n, r) := s.router.dispatch ⟨event, params⟩
  (n, { s with router := r })

def emitScript (s : StandIn) (id url : String) : Nat × StandIn :=
  s.emit Event.scriptParsed (.object [("scriptId", .text id), ("url", .text url)])

def emitStylesheet (s : StandIn) (id url : String) : Nat × StandIn :=
  s.emit Event.styleSheetAdded
    (.object [("header", .object [("sourceURL", .text url), ("styleSheetId", .text id)])])

/-- Announce that the page was cleared. -/
def emitCleared (s : StandIn) : Nat × StandIn := s.emit Event.executionContextsCleared .empty

def callCount (s : StandIn) (method : String) : Nat := s.history.countP (·.method == method)

/-- How long a caller waits for calls of a method, in milliseconds. Commands that can be sent have been
sent before, so they are there at once or not within the second that a caller waits at most. -/
def waitForCalls (s : StandIn) (method : String) (count : Nat) : Bool × Nat :=
  if count ≤ s.callCount method then (true, 0) else (false, 1000)

/-- The places of the gates in the way of a command. -/
def gatesFor (s : StandIn) (c : Command) : List Nat :=
  s.gates.zipIdx.filterMap fun (g, i) => if g.matchesCommand c then some i else none

/-- Remember a command, and hold it behind the gates that are in its way now. -/
def send (s : StandIn) (c : Command) : HeldCall × StandIn :=
  (⟨c, s.gatesFor c⟩, { s with history := s.history ++ [c] })

/-- A source that was given, under the id in a command's parameters. -/
def lookup (sources : List (String × String)) (c : Command) (key : String) : Except CoverageError String :=
  let id := ((c.params.get? key).bind Value.text?).getD ""
  match sources.lookup id with
  | some source => .ok source
  | none => .error (.command c.method ("No resource with given id found: " ++ id))

/-- The answer to a method without a prepared reply. -/
def builtin (s : StandIn) (c : Command) : Except CoverageError Value :=
  if c.method = Method.getScriptSource then
    (lookup s.scriptSources c "scriptId").map fun t => .object [("scriptSource", .text t)]
  else if c.method = Method.getStyleSheetText then
    (lookup s.sheetTexts c "styleSheetId").map fun t => .object [("text", .text t)]
  else .ok .empty

/-- The answer to a command as things stand now. -/
def answer (s : StandIn) (c : Command) : Except CoverageError Value :=
  match s.replies.lookup c.method with
  | some (.fixed v) => .ok v
  | some .echo => .ok (.object [("echo", c.params)])
  | some (.reject message) => .error (.command c.method message)
  | some (.computed answer) => answer c.params
  | none => s.builtin c

/-- Pass the open gates in order, up to a closed one; behind the last gate stands the answer. -/
def poll (s : StandIn) (h : HeldCall) : Progress HeldCall :=
  match h.gates.dropWhile s.isPassable with
  | [] => .finished (s.answer h.command)
  | gates => .waiting { h with gates := gates }

/-- The stand-in as diagnostics show it. -/
def describe (s : StandIn) : String := "MockSession \x7b calls: " ++ toString s.history.length ++ ", .. \x7d"

instance : Session StandIn HeldCall where
  router := StandIn.router
  withRouter s r := { s with router := r }
  refusal? _ _ := none
  send := send
  poll s h := (s.poll h, s)
  cancel s _ := s

end StandIn

end PageCoverage
