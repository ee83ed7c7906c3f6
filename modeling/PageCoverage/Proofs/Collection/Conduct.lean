import PageCoverage.Proofs.Collection.Sides
import PageCoverage.Proofs.Collection.Stages

namespace PageCoverage

/-- The course of a kind that has been started if it is collected. -/
def Course.underWay (collected : Bool) : Course := if collected then .started else .unstarted

/-- The course of a kind that has been stopped if it is collected. -/
def Course.over : Option (Except CoverageError (List Entry)) → Course
  | none => .unstarted
  | some r => .stopped r

namespace Stage

/-- How far the kinds have come at each stage. -/
inductive Matches (settings : Settings) : Stage → Courses → Prop where
  | begin : Matches settings .begin ⟨.unstarted, .unstarted⟩
  | startingScripts : settings.collectScripts = true → Matches settings .startingScripts ⟨.starting, .unstarted⟩
  | beginStylesheets : Matches settings .beginStylesheets ⟨.underWay settings.collectScripts, .unstarted⟩
  | startingStylesheets : settings.collectStylesheets = true →
    Matches settings .startingStylesheets ⟨.underWay settings.collectScripts, .starting⟩
  | retreating (e : CoverageError) : settings.collectScripts = true → settings.collectStylesheets = true →
    Matches settings (.retreating e) ⟨.stopping, .refused e⟩
  | waiting : Matches settings .waiting ⟨.underWay settings.collectScripts, .underWay settings.collectStylesheets⟩
  | beginStop :
    Matches settings .beginStop ⟨.underWay settings.collectScripts, .underWay settings.collectStylesheets⟩
  | stoppingScripts : settings.collectScripts = true →
    Matches settings .stoppingScripts ⟨.stopping, .underWay settings.collectStylesheets⟩
  | beginStopStylesheets (scripts : Option (Except CoverageError (List Entry))) :
    scripts.isSome = settings.collectScripts →
    Matches settings (.beginStopStylesheets scripts) ⟨.over scripts, .underWay settings.collectStylesheets⟩
  | stoppingStylesheets (scripts : Option (Except CoverageError (List Entry))) :
    scripts.isSome = settings.collectScripts → settings.collectStylesheets = true →
    Matches settings (.stoppingStylesheets scripts) ⟨.over scripts, .stopping⟩
  | refusedScripts (e : CoverageError) : settings.collectScripts = true →
    Matches settings (.finished (.error e)) ⟨.refused e, .unstarted⟩
  | refusedStylesheets (e : CoverageError) (scripts : Option (Except CoverageError (List Entry))) :
    scripts.isSome = settings.collectScripts → settings.collectStylesheets = true →
    Matches settings (.finished (.error e)) ⟨.over scripts, .refused e⟩
  | reported (scripts stylesheets : Option (Except CoverageError (List Entry))) :
    scripts.isSome = settings.collectScripts → stylesheets.isSome = settings.collectStylesheets →
    Matches settings (.finished (Collection.report scripts stylesheets)) ⟨.over scripts, .over stylesheets⟩

end Stage

namespace Collection

open Scene

section

variable {σ κ : Type} [Session σ κ]

/-- A start or a stop that is refused ends with that. -/
def refusal (kind : ResourceKind) (outcome : CoverageError → Outcome) :
    Except CoverageError Unit → List (ResourceKind × Outcome)
  | .ok () => []
  | .error e => [(kind, outcome e)]

/-- The start or the stop that ends with the next step. -/
def ended (c : Collection σ κ) : List (ResourceKind × Outcome) :=
  match c.stage with
  | .begin =>
    if c.settings.collectScripts then
      refusal .script (fun e => .started (.error e)) (c.page.startScripts c.settings.scripts).1
    else []
  | .beginStylesheets =>
    if c.settings.collectStylesheets then
      refusal .stylesheet (fun e => .started (.error e)) (c.page.startStylesheets c.settings.stylesheets).1
    else []
  | .beginStop =>
    if c.settings.collectScripts then refusal .script (fun e => .stopped (.error e)) c.page.stopScripts.1 else []
  | .beginStopStylesheets _ =>
    if c.settings.collectStylesheets then
      refusal .stylesheet (fun e => .stopped (.error e)) c.page.stopStylesheets.1
    else []
  | .startingScripts | .retreating _ | .stoppingScripts => c.page.advanceScripts.1.toList.map (.script, ·)
  | .startingStylesheets | .stoppingStylesheets _ => c.page.advanceStylesheets.1.toList.map (.stylesheet, ·)
  | .waiting | .finished _ => []

end

variable {σ κ : Type} [Session σ κ]

/-- A tracker's background work. -/
def work (c : Collection (Recorded σ) κ) (kind : ResourceKind) (t : Scene (Recorded σ) kind.Options κ) :
    Collection (Recorded σ) κ :=
  { c with page := c.page.put kind t }

def withSession (c : Collection (Recorded σ) κ) (u : σ) : Collection (Recorded σ) κ :=
  { c with page := c.page.withSession { c.page.session with session := u } }

/-- A run on a new page has come to a state; the starts and stops that have ended by then, and the sinks that the
run has opened. Meanwhile its trackers handle events and fetch sources, and others use the session. -/
inductive Run (settings : Settings) :
    Collection (Recorded σ) κ → List (ResourceKind × Outcome) → List SinkId → Prop where
  | new (session : σ) : (Session.router session).WellFormed →
    Run settings { page := { session := ⟨session, []⟩ }, settings } [] []
  | step {c ends sinks} : Run settings c ends sinks →
    Run settings c.step (ends ++ c.ended) (sinks ++ Session.newSinks c.page.session c.step.page.session)
  | stopWaiting {c ends sinks} : Run settings c ends sinks → Run settings c.stopWaiting ends sinks
  | pump {c ends sinks} (kind : ResourceKind) : Run settings c ends sinks →
    Run settings (c.work kind (c.page.scene kind).pump) ends
      (sinks ++ Session.newSinks c.page.session (c.page.scene kind).pump.session)
  | fetch {c ends sinks} (kind : ResourceKind) (i : Nat) : Run settings c ends sinks →
    Run settings (c.work kind ((c.page.scene kind).fetchAt i)) ends
      (sinks ++ Session.newSinks c.page.session ((c.page.scene kind).fetchAt i).session)
  | elsewhere {c ends sinks} (u : σ) : Run settings c ends sinks →
    Session.Apart sinks c.page.session.session u → Run settings (c.withSession u) ends sinks

/-- A run goes on, waits to be stopped or has finished, unless some answer is still to come. -/
def Proceeds (c : Collection (Recorded σ) κ) : Prop :=
  c.stage.rank < c.step.stage.rank ∨ c.isWaiting = true ∨ c.result?.isSome = true ∨
    ∃ kind call, .pending call ∈ (c.step.page.scene kind).tracker.batch

/-- A run at a stage, with its trackers on the courses that belong to it. -/
structure Kept (settings : Settings) (c : Collection (Recorded σ) κ) (ends : List (ResourceKind × Outcome))
    (sinks : List SinkId) (courses : Courses) : Prop where
  given : c.settings = settings
  abreast : c.page.Abreast ends sinks courses
  stage : c.stage.Matches settings courses

/-- The next step of a run keeps it. -/
def Steps (settings : Settings) (c : Collection (Recorded σ) κ) (ends : List (ResourceKind × Outcome))
    (sinks : List SinkId) : Prop :=
  (∃ courses, Kept settings c.step (ends ++ c.ended)
    (sinks ++ Session.newSinks c.page.session c.step.page.session) courses) ∧ c.Proceeds

variable {settings : Settings} {page : Page (Recorded σ) κ} {stage next : Stage} {courses : Courses}
  {ends : List (ResourceKind × Outcome)} {sinks : List SinkId}

/-- A step to another stage. -/
theorem steps_of_moved {moved : Page (Recorded σ) κ} {os : List (ResourceKind × Outcome)}
    (step : (⟨page, settings, stage⟩ : Collection (Recorded σ) κ).step = ⟨moved, settings, next⟩)
    (ended : (⟨page, settings, stage⟩ : Collection (Recorded σ) κ).ended = os)
    (abreast : moved.Abreast (ends ++ os) (sinks ++ Session.newSinks page.session moved.session) courses)
    (matching : next.Matches settings courses) (later : stage.rank < next.rank) :
    Steps settings ⟨page, settings, stage⟩ ends sinks := by
  subst ended
  rw [Steps, Proceeds, step]
  exact ⟨⟨courses, rfl, abreast, matching⟩, .inl later⟩

/-- A step that finds answers missing. -/
theorem steps_of_waiting {kind : ResourceKind} {t : Scene (Recorded σ) kind.Options κ}
    (step : (⟨page, settings, stage⟩ : Collection (Recorded σ) κ).step = ⟨page.put kind t, settings, stage⟩)
    (ended : (⟨page, settings, stage⟩ : Collection (Recorded σ) κ).ended = [])
    (abreast : (page.put kind t).Abreast ends (sinks ++ Session.newSinks page.session t.session) courses)
    (matching : stage.Matches settings courses) (pending : ∃ call, .pending call ∈ t.tracker.batch) :
    Steps settings ⟨page, settings, stage⟩ ends sinks := by
  obtain ⟨call, hcall⟩ := pending
  rw [Steps, Proceeds, step, ended, List.append_nil]
  refine ⟨⟨courses, rfl, ?_, matching⟩, .inr (.inr (.inr ⟨kind, call, ?_⟩))⟩
  · rwa [Page.session_put]
  · rwa [Page.scene_put]

/-- A step that changes nothing. -/
theorem steps_of_same
    (step : (⟨page, settings, stage⟩ : Collection (Recorded σ) κ).step = ⟨page, settings, stage⟩)
    (ended : (⟨page, settings, stage⟩ : Collection (Recorded σ) κ).ended = [])
    (abreast : page.Abreast ends sinks courses) (matching : stage.Matches settings courses)
    (rests : (⟨page, settings, stage⟩ : Collection (Recorded σ) κ).isWaiting = true ∨
      (⟨page, settings, stage⟩ : Collection (Recorded σ) κ).result?.isSome = true) :
    Steps settings ⟨page, settings, stage⟩ ends sinks := by
  rw [Steps, Proceeds, step, ended, Session.newSinks, Nat.sub_self, List.range'_zero, List.append_nil, List.append_nil]
  exact ⟨⟨courses, rfl, abreast, matching⟩, .inr (rests.imp_right .inl)⟩

/-- A step that consists of work of one tracker. -/
theorem steps_of_put {kind : ResourceKind} {t : Scene (Recorded σ) kind.Options κ} {os : List (ResourceKind × Outcome)}
    (step : (⟨page, settings, stage⟩ : Collection (Recorded σ) κ).step = ⟨page.put kind t, settings, next⟩)
    (ended : (⟨page, settings, stage⟩ : Collection (Recorded σ) κ).ended = os)
    (abreast : (page.put kind t).Abreast (ends ++ os) (sinks ++ Session.newSinks page.session t.session) courses)
    (matching : next.Matches settings courses) (later : stage.rank < next.rank) :
    Steps settings ⟨page, settings, stage⟩ ends sinks :=
  steps_of_moved step ended (by rwa [Page.session_put]) matching later

/-- A step with which nothing ends. -/
theorem steps_of_begun {kind : ResourceKind} {t : Scene (Recorded σ) kind.Options κ}
    (step : (⟨page, settings, stage⟩ : Collection (Recorded σ) κ).step = ⟨page.put kind t, settings, next⟩)
    (ended : (⟨page, settings, stage⟩ : Collection (Recorded σ) κ).ended = [])
    (abreast : (page.put kind t).Abreast ends (sinks ++ Session.newSinks page.session t.session) courses)
    (matching : next.Matches settings courses) (later : stage.rank < next.rank) :
    Steps settings ⟨page, settings, stage⟩ ends sinks :=
  steps_of_put step ended (by rwa [List.append_nil]) matching later

/-- A step that only passes on. -/
theorem steps_of_entered
    (step : (⟨page, settings, stage⟩ : Collection (Recorded σ) κ).step = ⟨page, settings, next⟩)
    (ended : (⟨page, settings, stage⟩ : Collection (Recorded σ) κ).ended = [])
    (abreast : page.Abreast ends sinks courses) (matching : next.Matches settings courses)
    (later : stage.rank < next.rank) : Steps settings ⟨page, settings, stage⟩ ends sinks := by
  refine steps_of_moved step ended ?_ matching later
  rwa [Session.newSinks, Nat.sub_self, List.range'_zero, List.append_nil, List.append_nil]

theorem kept_new {session : σ} (wellFormed : (Session.router session).WellFormed) :
    Kept settings { page := { session := (⟨session, []⟩ : Recorded σ) }, settings } [] []
      ⟨.unstarted, .unstarted⟩ := by
  refine ⟨rfl, ⟨fun kind => ?_, fun kind => ?_, fun kind => ?_, fun kind => ?_, nofun, fun kind => ?_, nofun⟩, .begin⟩
  · cases kind <;> exact sound_of_idle wellFormed (Cache.indexed_clear {}) rfl
  · cases kind <;> exact nofun
  · cases kind <;> exact ⟨rfl, rfl⟩
  · cases kind <;> rfl
  · cases kind <;> exact nofun

theorem Kept.stopWaiting {c : Collection (Recorded σ) κ} (h : Kept settings c ends sinks courses) :
    Kept settings c.stopWaiting ends sinks courses := by
  obtain ⟨page, given, stage⟩ := c
  obtain ⟨rfl, abreast, matching⟩ := h
  dsimp only at abreast matching
  cases matching with
  | waiting => exact ⟨rfl, abreast, .beginStop⟩
  | _ =>
    refine ⟨rfl, abreast, ?_⟩
    constructor <;> assumption

end Collection

end PageCoverage
