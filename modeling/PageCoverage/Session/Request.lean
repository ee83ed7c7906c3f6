import PageCoverage.Session.Basic

namespace PageCoverage

/-- A command from before it is sent until its answer is there. -/
inductive Request (κ : Type) where
  | unsent (c : Command)
  | pending (call : κ)
  | done (result : Except CoverageError Value)

namespace Request

variable {σ κ : Type} [Session σ κ]

/-- A request after its call has been polled. -/
def ofProgress : Progress κ → Request κ
  | .waiting call => .pending call
  | .finished result => .done result

/-- Send a request that has not been sent, and look for its answer. -/
def poll (s : σ) : Request κ → Request κ × σ
  | .unsent c =>
    let (call, s) := Session.send s c
    let (p, s) := Session.poll s call
    (ofProgress p, s)
  | .pending call =>
    let (p, s) := Session.poll s call
    (ofProgress p, s)
  | .done result => (.done result, s)

def failure? : Request κ → Option CoverageError
  | .done (.error e) => some e
  | _ => none

def answer? : Request κ → Option Value
  | .done (.ok v) => some v
  | _ => none

/-- Poll requests in order, up to one that fails; those behind it stay as they are. -/
def pollAll (s : σ) : List (Request κ) → List (Request κ) × σ
  | [] => ([], s)
  | r :: rest =>
    let (r, s) := r.poll s
    match r.failure? with
    | some _ => (r :: rest, s)
    | none =>
      let (rest, s) := pollAll s rest
      (r :: rest, s)

def cancel (s : σ) : Request κ → σ
  | .pending call => Session.cancel s call
  | _ => s

def cancelAll (s : σ) (rs : List (Request κ)) : σ := rs.foldl cancel s

/-- The first failure among requests. -/
def firstFailure? (rs : List (Request κ)) : Option CoverageError := rs.findSome? failure?

/-- The answers of all requests, once every one has succeeded. -/
def answers? (rs : List (Request κ)) : Option (List Value) := rs.mapM answer?

end Request

end PageCoverage
