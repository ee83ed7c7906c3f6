import PageCoverage.Tracking.Tracker

namespace PageCoverage

/--
A tracker, the session it works on, and what has been logged. Each function on scenes is one step that
cannot be interrupted.
-/
structure Scene (σ K κ : Type) where
  session : σ
  tracker : Tracker K κ
  log : List Notice := []

namespace Scene

variable {σ K κ : Type} [Session σ κ] [Strategy K]

def note (s : Scene σ K κ) (n : Notice) : Scene σ K κ := { s with log := s.log ++ [n] }

def enter (s : Scene σ K κ) (p : Phase K κ) : Scene σ K κ :=
  { s with tracker := { s.tracker with phase := p } }

def withCache (s : Scene σ K κ) (c : Cache) : Scene σ K κ :=
  { s with tracker := { s.tracker with cache := c } }

/-- Undo the subscriptions of an attachment and close its sink. -/
def detach (s : Scene σ K κ) (a : Attachment) : Scene σ K κ :=
  { s with session := Session.closeSink (a.subscriptions.foldl Session.release s.session) a.sink }

/-- Give up a start or a stop that has not ended. The tracker is idle then and listens to nothing. -/
def abandon (s : Scene σ K κ) : Scene σ K κ :=
  match s.tracker.phase with
  | .starting _ a batch => ({ s with session := Request.cancelAll s.session batch }.detach a).enter .idle
  | .stopping _ batch => { s with session := Request.cancelAll s.session batch }.enter .idle
  | _ => s

/-- Subscribe a new sink to registrations and to resets, both or none. -/
def attach (s : Scene σ K κ) : Except CoverageError Attachment × Scene σ K κ :=
  let (sink, session) := Session.openSink s.session
  match Session.subscribe session (Strategy.registrationEvent K) sink with
  | .error e => (.error e, { s with session := Session.closeSink session sink })
  | .ok (registrations, session) =>
    match Session.subscribe session Event.executionContextsCleared sink with
    | .error e =>
      (.error e, { s with session := Session.closeSink (Session.release session registrations) sink })
    | .ok (resets, session) =>
      (.ok { sink := sink, subscriptions := [registrations, resets] }, { s with session := session })

/--
Begin to collect. The commands of the start are not sent yet; `advance` sends them. A start that had not
ended is given up first.
-/
def beginStart (s : Scene σ K κ) (options : K) : Except CoverageError Unit × Scene σ K κ :=
  if s.tracker.isEnabled then (.error (.alreadyEnabled (Strategy.kind K)), s)
  else
    let s := s.abandon
    let s := s.withCache s.tracker.cache.beginSession
    match s.attach with
    | (.error e, s) => (.error e, s)
    | (.ok a, s) => (.ok (), s.enter (.starting options a ((Strategy.enableCommands options).map .unsent)))

/--
Begin to stop: from here on the tracker listens to nothing and takes no source. The collect command goes
out before the disabling ones.
-/
def beginStop (s : Scene σ K κ) : Except CoverageError Unit × Scene σ K κ :=
  match s.tracker.phase with
  | .enabled options a =>
    let s := s.detach a
    let s := s.withCache s.tracker.cache.close
    (.ok (), s.enter (.stopping options
      (.unsent (Strategy.collectCommand options) :: (Strategy.disableCommands options).map .unsent)))
  | _ => (.error (.notEnabled (Strategy.kind K)), s.abandon)

/-- The end of a start whose commands have all succeeded. -/
def finishStart (s : Scene σ K κ) (options : K) (a : Attachment) : Scene σ K κ :=
  ((s.withCache s.tracker.cache.openUp).enter (.enabled options a)).note (.enabled (Strategy.kind K))

/-- The end of a stop: the records are taken out, whatever its commands have come to. -/
def finishStop (s : Scene σ K κ) : List Record × Scene σ K κ :=
  let (records, cache) := s.tracker.cache.takeRecords
  (records, ((s.withCache cache).enter .idle).note (.disabled (Strategy.kind K) records.length))

/-- The entries of a stop whose commands have all succeeded; the first answer is the usage. -/
def entriesOf (options : K) (records : List Record) (answers : List Value) :
    Except CoverageError (List Entry) :=
  (Strategy.usage options (answers.headD .null)).map (buildEntries records)

/-- Send and poll the commands of a start or a stop that is under way, and end it if that can be. -/
def advance (s : Scene σ K κ) : Option Outcome × Scene σ K κ :=
  match s.tracker.phase with
  | .starting options a batch =>
    let (batch, session) := Request.pollAll s.session batch
    let s := { s with session := session }
    match Request.firstFailure? batch with
    | some e => (some (.started (.error e)), (s.enter (.starting options a batch)).abandon)
    | none =>
      match Request.answers? batch with
      | some _ => (some (.started (.ok ())), s.finishStart options a)
      | none => (none, s.enter (.starting options a batch))
  | .stopping options batch =>
    let (batch, session) := Request.pollAll s.session batch
    let s := { s with session := session }
    match Request.firstFailure? batch with
    | some e =>
      let (_, s) := (s.enter (.stopping options batch)).abandon.finishStop
      (some (.stopped (.error e)), s)
    | none =>
      match Request.answers? batch with
      | some answers =>
        let (records, s) := s.finishStop
        (some (.stopped (entriesOf options records answers)), s)
      | none => (none, s.enter (.stopping options batch))
  | _ => (none, s)

/-- Handle a cleared page: with the option set, sources fetched so far are forgotten. -/
def onReset (s : Scene σ K κ) (options : K) : Scene σ K κ :=
  if Strategy.resetOnNavigation options then
    match s.tracker.cache.reset with
    | (true, cache) => (s.withCache cache).note (.cacheReset (Strategy.kind K))
    | (false, _) => s
  else s

/-- Handle a registration: an admitted one begins a fetch. -/
def onRegistration (s : Scene σ K κ) (options : K) (params : Value) : Scene σ K κ :=
  match Strategy.registration options params with
  | .error e => s.note (.registrationSkipped (Strategy.kind K) e)
  | .ok none => s
  | .ok (some resource) =>
    match s.tracker.cache.acceptingGeneration with
    | none => s
    | some generation =>
      let fetch := { options, resource, generation,
                     request := .unsent (Strategy.fetchCommand options resource.id) }
      { s with tracker := { s.tracker with fetches := s.tracker.fetches ++ [fetch] } }

def onEvent (s : Scene σ K κ) (options : K) (e : Event) : Scene σ K κ :=
  if e.method = Event.executionContextsCleared then s.onReset options else s.onRegistration options e.params

/-- Handle the oldest event in the sink. Reading ends when the sink is empty and nothing feeds it. -/
def pump (s : Scene σ K κ) : Scene σ K κ :=
  match s.tracker.phase with
  | .enabled options a =>
    if a.reading then
      match (Session.router s.session).take a.sink with
      | (some e, r) => { s with session := Session.withRouter s.session r }.onEvent options e
      | (none, r) =>
        if r.isFed a.sink then s
        else
          (({ s with session := Session.closeSink s.session a.sink }.enter
            (.enabled options { a with reading := false })).note (.streamClosed (Strategy.kind K)))
    else s
  | _ => s

/-- The number of events that wait in the sink. -/
def waiting (s : Scene σ K κ) : Nat :=
  match s.tracker.phase with
  | .enabled _ a => ((Session.router s.session).queue a.sink).length
  | _ => 0

/-- Handle all events that wait in the sink, and notice its end. -/
def pumpAll (s : Scene σ K κ) : Scene σ K κ := Nat.repeat pump (s.waiting + 1) s

/-- A fetch has its answer: the source is stored, unless the cache is of another generation by now. -/
def finishFetch (s : Scene σ K κ) (f : Fetch K κ) (result : Except CoverageError Value) : Scene σ K κ :=
  match result.bind (Strategy.sourceText f.options) with
  | .error e => s.note (.fetchFailed (Strategy.kind K) f.resource.url (.fetch f.resource.id.text e.message))
  | .ok source =>
    match s.tracker.cache.insert f.generation ⟨f.resource.id, f.resource.url, source⟩ with
    | (true, cache) => s.withCache cache
    | (false, _) => s.note (.staleSource (Strategy.kind K) f.resource.id)

/-- Send and poll the command of a fetch that has been taken out of the tracker. -/
def advanceFetch (s : Scene σ K κ) (f : Fetch K κ) : Scene σ K κ :=
  let (request, session) := f.request.poll s.session
  let s := { s with session := session }
  match request with
  | .done result => s.finishFetch f result
  | request =>
    { s with tracker := { s.tracker with fetches := s.tracker.fetches ++ [{ f with request := request }] } }

/-- Advance the fetch at a place; the others keep their order. -/
def fetchAt (s : Scene σ K κ) (i : Nat) : Scene σ K κ :=
  match s.tracker.fetches[i]? with
  | none => s
  | some f =>
    { s with tracker := { s.tracker with fetches := s.tracker.fetches.eraseIdx i } }.advanceFetch f

def fetchAll (s : Scene σ K κ) : Scene σ K κ :=
  s.tracker.fetches.foldl advanceFetch { s with tracker := { s.tracker with fetches := [] } }

/-- The tracker goes away: what it waits for is given up and its subscriptions end. -/
def drop (s : Scene σ K κ) : Scene σ K κ :=
  let s := s.abandon
  match s.tracker.phase with
  | .enabled _ a => (s.detach a).enter .idle
  | _ => s

end Scene

end PageCoverage
