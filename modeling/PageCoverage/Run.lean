import PageCoverage.Collection
import PageCoverage.Session.Socket
import PageCoverage.Waiting

namespace PageCoverage

/-- A run on a session. The target reports context resets only once its runtime domain is enabled, so that
command goes out before anything is collected. -/
structure Run (σ κ : Type) where
  collection : Collection σ κ
  /-- The command that enables the runtime domain. -/
  opening : Request κ := .unsent ⟨Method.runtimeEnable, .empty⟩

/-- Something that a run on a connection meets. -/
inductive Happening where
  | frame (text : String)
  | ending (e : Ending)
  /-- The wait is over. An interrupt may have come so many milliseconds after its beginning. -/
  | enough (interrupt : Option Nat)

namespace Run

section

variable {σ κ : Type} [Session σ κ]

/-- A run that has not sent anything. -/
def new (session : σ) (settings : Settings) : Run σ κ :=
  { collection := { page := { session := session }, settings := settings } }

def session (r : Run σ κ) : σ := r.collection.page.session

def withSession (r : Run σ κ) (s : σ) : Run σ κ :=
  { r with collection := { r.collection with page := { r.collection.page with session := s } } }

/-- Do what can be done at once, with the work in the background. -/
def advance (r : Run σ κ) : Run σ κ :=
  let (opening, s) := r.opening.poll r.session
  let r := { r.withSession s with opening := opening }
  match opening with
  | .done (.ok _) => { r with collection := r.collection.drive.settle }
  | _ => r

/-- The end of the wait, if the run has come to it. -/
def stopWaiting (r : Run σ κ) (interrupt : Option Nat) : Run σ κ :=
  if r.collection.isWaiting then
    let page := r.collection.page
    let (_, notices) := waitForStop (1000 * r.collection.settings.duration.toNat) interrupt
    { r with collection := { r.collection with page := { page with log := page.log ++ notices } }.stopWaiting }
  else r

def result? (r : Run σ κ) : Option RunResult :=
  match r.opening.failure? with
  | some e => some (.error e)
  | none => r.collection.result?

end

/-- Nothing comes from a connection that has ended. -/
def meet (r : Run Socket SocketCall) : Happening → Run Socket SocketCall
  | .frame text => if r.session.isClosed then r else r.withSession (r.session.receive text)
  | .ending e => if r.session.isClosed then r else r.withSession (r.session.finish e)
  | .enough interrupt => r.stopWaiting interrupt

/-- A run goes on with everything that it meets. -/
def follow (r : Run Socket SocketCall) (happenings : List Happening) : Run Socket SocketCall :=
  happenings.foldl (fun r h => (r.meet h).advance) r.advance

/-- Connect to a target and collect. A connection is given by what the run meets on it, and behind that it ends. -/
def against {m : Type → Type} [Monad m] (connect : String → m (Except CoverageError (List Happening)))
    (url : String) (settings : Settings) : m RunResult := do
  match ← connect url with
  | .error e => return .error e
  | .ok happenings =>
    let r : Run Socket SocketCall := new {} settings
    return ((r.follow (happenings ++ [.ending .closed, .enough none])).result?).getD (.error .connectionClosed)

end Run

end PageCoverage
