import Mathlib.Logic.Relation
import PageCoverage.Proofs.Tracking.Steps

namespace PageCoverage

/-- Something that happens between a start and the end of the stop that follows. -/
inductive Occurrence where
  | dispatch (e : Event)
  /-- The pump handles an event. -/
  | handle (e : Event)
  /-- A fetch ends. It was begun for the event handled at a place, or before the start, and its age is the
  number of generations that the cache has gone through meanwhile. -/
  | fetch (place : Option Nat) (age : Nat) (result : Except CoverageError String)
  /-- A stop closes the cache. -/
  | close

namespace Occurrence

def dispatched? : Occurrence → Option Event
  | dispatch e => some e
  | _ => none

def handled? : Occurrence → Option Event
  | handle e => some e
  | _ => none

def isClose : Occurrence → Bool
  | close => true
  | _ => false

def dispatched (h : List Occurrence) : List Event := h.filterMap dispatched?

def handled (h : List Occurrence) : List Event := h.filterMap handled?

/-- What happened before the cache was closed. -/
def beforeClose (h : List Occurrence) : List Occurrence := h.takeWhile (!·.isClose)

@[simp] theorem handled_append (h g : List Occurrence) : handled (h ++ g) = handled h ++ handled g :=
  List.filterMap_append

@[simp] theorem dispatched_append (h g : List Occurrence) :
    dispatched (h ++ g) = dispatched h ++ dispatched g :=
  List.filterMap_append

@[simp] theorem handled_singleton (x : Occurrence) : handled [x] = x.handled?.toList := by
  cases x <;> rfl

@[simp] theorem dispatched_singleton (x : Occurrence) : dispatched [x] = x.dispatched?.toList := by
  cases x <;> rfl

section

variable {K : Type} [Strategy K]

/-- No reset has come behind an event, or resets do not count. -/
def Standing (options : K) (events : List Event) (place : Nat) : Prop :=
  Strategy.resetOnNavigation options = true →
    ∀ e ∈ events.drop (place + 1), e.method ≠ Event.executionContextsCleared

instance (options : K) (events : List Event) (place : Nat) : Decidable (Standing options events place) :=
  inferInstanceAs (Decidable (_ → _))

/-- The record that the end of a fetch gives: that of a registration that still stands, if there is a
source. -/
def record? (options : K) (events : List Event) : Occurrence → Option Record
  | fetch (some place) _ (.ok source) =>
    if Standing options events place then
      ((events[place]?).bind (Strategy.admitted? options)).map fun r => ⟨r.id, r.url, source⟩
    else none
  | _ => none

/-- The records that fetches have given before the cache was closed, in order. -/
def collected (options : K) (h : List Occurrence) : List Record :=
  (beforeClose h).filterMap (record? options (handled h))

end

end Occurrence

/-- What is known of a fetch under way: the place of its event among those handled since the last start,
if it was begun since then, and the number of generations that there had been when it was begun. -/
structure Errand where
  place : Option Nat
  since : Nat

/-- A tracker, its fetches' errands, the number of generations of its cache, and its history since the last
start. -/
structure Watched (σ K κ : Type) where
  scene : Scene σ K κ
  errands : List Errand := []
  generations : Nat := 0
  history : List Occurrence := []

namespace Watched

variable {σ K κ : Type} [Session σ κ] [Strategy K]

def fresh (session : σ) : Watched σ K κ := { scene := { session, tracker := {} } }

/-- The tracker has made a step; a new generation of its cache is counted. -/
def see (w : Watched σ K κ) (s : Scene σ K κ) : Watched σ K κ :=
  { w with
    scene := s
    generations :=
      if s.tracker.cache.generation = w.scene.tracker.cache.generation then w.generations
      else w.generations + 1 }

/-- Begin to start. With the subscriptions a new history begins, to which earlier fetches do not belong. -/
def start (w : Watched σ K κ) (options : K) : Watched σ K κ :=
  match w.scene.beginStart options with
  | (.ok (), s) => { w.see s with errands := w.errands.map ({ · with place := none }), history := [] }
  | (.error _, s) => w.see s

def stop (w : Watched σ K κ) : Watched σ K κ :=
  match w.scene.beginStop with
  | (.ok (), s) => { w.see s with history := w.history ++ [.close] }
  | (.error _, s) => w.see s

def advance (w : Watched σ K κ) : Watched σ K κ := w.see w.scene.advance.2

def abandon (w : Watched σ K κ) : Watched σ K κ := w.see w.scene.abandon

/-- Let the pump handle an event. A fetch that this begins is on an errand for the event. -/
def pump (w : Watched σ K κ) : Watched σ K κ :=
  { w.see w.scene.pump with
    errands := w.errands ++ (w.scene.pump.tracker.fetches.drop w.scene.tracker.fetches.length).map fun _ =>
      ⟨some (Occurrence.handled w.history).length, w.generations⟩
    history := w.history ++ w.scene.next?.toList.map .handle }

def fetch (w : Watched σ K κ) (i : Nat) : Watched σ K κ :=
  match w.scene.tracker.fetches[i]?, w.errands[i]? with
  | some f, some errand =>
    match (f.request.poll w.scene.session).1 with
    | .done result =>
      { w.see (w.scene.fetchAt i) with
        errands := w.errands.eraseIdx i
        history := w.history ++ [.fetch errand.place (w.generations - errand.since)
          (result.bind (Strategy.sourceText f.options))] }
    | _ => { w.see (w.scene.fetchAt i) with errands := w.errands.eraseIdx i ++ [errand] }
  | _, _ => w

def withSession (w : Watched σ K κ) (s : σ) : Watched σ K κ := { w with scene := { w.scene with session := s } }

def dispatch (w : Watched σ K κ) (e : Event) : Watched σ K κ :=
  { w.withSession (Session.withRouter w.scene.session ((Session.router w.scene.session).dispatch e).2) with
    history := w.history ++ [.dispatch e] }

/-- The session changes in any way that leaves the tracker's sink and its listeners alone, unless it
removes all listeners. -/
def Elsewhere (w : Watched σ K κ) (s : σ) : Prop :=
  ((Session.router w.scene.session).WellFormed → (Session.router s).WellFormed) ∧
    ∀ a, w.scene.tracker.attachment? = some a →
      Router.Spares a.sink (Session.router w.scene.session) (Session.router s)

/-- One step of the tracker or of what surrounds it. -/
inductive Step : Watched σ K κ → Watched σ K κ → Prop where
  | start (w : Watched σ K κ) (options : K) : Step w (w.start options)
  | stop (w : Watched σ K κ) : Step w w.stop
  | advance (w : Watched σ K κ) : Step w w.advance
  | abandon (w : Watched σ K κ) : Step w w.abandon
  | pump (w : Watched σ K κ) : Step w w.pump
  | fetch (w : Watched σ K κ) (i : Nat) : Step w (w.fetch i)
  | dispatch (w : Watched σ K κ) (e : Event) : Step w (w.dispatch e)
  | elsewhere (w : Watched σ K κ) (s : σ) : w.Elsewhere s → Step w (w.withSession s)

end Watched

end PageCoverage
