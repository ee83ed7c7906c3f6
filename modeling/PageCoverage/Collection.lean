import PageCoverage.Page
import PageCoverage.Resource.Report

namespace PageCoverage

/-- The reports of a run, one for each kind that was collected. -/
structure RunReport where
  scripts : Option Report := none
  stylesheets : Option Report := none
  deriving DecidableEq, Repr

instance : Coded RunReport where
  schema := .record "RunReport"
    (.cons "js" (Coded.schema (Option Report)) (.value .null)
      (.cons "css" (Coded.schema (Option Report)) (.value .null) .nil))
  toData r := (Coded.toData r.scripts, Coded.toData r.stylesheets, ())
  ofData := fun (scripts, stylesheets, _) => ⟨Coded.ofData scripts, Coded.ofData stylesheets⟩

abbrev RunResult := Except CoverageError RunReport

/-- How far a run has come. -/
inductive Stage where
  | begin
  | startingScripts
  | beginStylesheets
  | startingStylesheets
  /-- Stylesheet coverage did not start; script coverage is being stopped. -/
  | retreating (error : CoverageError)
  | waiting
  | beginStop
  | stoppingScripts
  | beginStopStylesheets (scripts : Option (Except CoverageError (List Entry)))
  | stoppingStylesheets (scripts : Option (Except CoverageError (List Entry)))
  | finished (result : RunResult)

/-- A run on a page. -/
structure Collection (σ κ : Type) where
  page : Page σ κ
  settings : Settings
  stage : Stage := .begin

namespace Collection

variable {σ κ : Type} [Session σ κ]

def enter (c : Collection σ κ) (stage : Stage) : Collection σ κ := { c with stage := stage }

/-- The result of the two stops. Of two errors the one of script coverage is reported. -/
def report (scripts stylesheets : Option (Except CoverageError (List Entry))) : RunResult := do
  let js ← scripts.mapM id
  let css ← stylesheets.mapM id
  .ok ⟨js.map Report.mk, css.map Report.mk⟩

/-- Script coverage has been stopped because stylesheet coverage did not start. -/
def retreated (c : Collection σ κ) (error : CoverageError) (stopped : Except CoverageError (List Entry)) :
    Collection σ κ :=
  let page := match stopped with
    | .ok _ => c.page
    | .error e => { c.page with log := c.page.log ++ [.stopFailed e] }
  { c with page := page, stage := .finished (.error error) }

/-- Stylesheet coverage did not start: script coverage is stopped if it is running. -/
def retreat (c : Collection σ κ) (error : CoverageError) : Collection σ κ :=
  if c.page.scripts.isEnabled then
    match c.page.stopScripts with
    | (.ok (), page) => { c with page := page, stage := .retreating error }
    | (.error e, page) => retreated { c with page := page } error (.error e)
  else c.enter (.finished (.error error))

/-- Do what can be done at the present stage. Nothing changes where commands or the end of the wait are
still to come. -/
def step (c : Collection σ κ) : Collection σ κ :=
  match c.stage with
  | .begin =>
    if c.settings.collectScripts then
      match c.page.startScripts c.settings.scripts with
      | (.ok (), page) => { c with page := page, stage := .startingScripts }
      | (.error e, page) => { c with page := page, stage := .finished (.error e) }
    else c.enter .beginStylesheets
  | .startingScripts =>
    match c.page.advanceScripts with
    | (some (.started (.ok ())), page) => { c with page := page, stage := .beginStylesheets }
    | (some (.started (.error e)), page) => { c with page := page, stage := .finished (.error e) }
    | (_, page) => { c with page := page }
  | .beginStylesheets =>
    if c.settings.collectStylesheets then
      match c.page.startStylesheets c.settings.stylesheets with
      | (.ok (), page) => { c with page := page, stage := .startingStylesheets }
      | (.error e, page) => retreat { c with page := page } e
    else c.enter .waiting
  | .startingStylesheets =>
    match c.page.advanceStylesheets with
    | (some (.started (.ok ())), page) => { c with page := page, stage := .waiting }
    | (some (.started (.error e)), page) => retreat { c with page := page } e
    | (_, page) => { c with page := page }
  | .retreating error =>
    match c.page.advanceScripts with
    | (some (.stopped r), page) => retreated { c with page := page } error r
    | (_, page) => { c with page := page }
  | .waiting => c
  | .beginStop =>
    if c.settings.collectScripts then
      match c.page.stopScripts with
      | (.ok (), page) => { c with page := page, stage := .stoppingScripts }
      | (.error e, page) => { c with page := page, stage := .beginStopStylesheets (some (.error e)) }
    else c.enter (.beginStopStylesheets none)
  | .stoppingScripts =>
    match c.page.advanceScripts with
    | (some (.stopped r), page) => { c with page := page, stage := .beginStopStylesheets (some r) }
    | (_, page) => { c with page := page }
  | .beginStopStylesheets scripts =>
    if c.settings.collectStylesheets then
      match c.page.stopStylesheets with
      | (.ok (), page) => { c with page := page, stage := .stoppingStylesheets scripts }
      | (.error e, page) => { c with page := page, stage := .finished (report scripts (some (.error e))) }
    else c.enter (.finished (report scripts none))
  | .stoppingStylesheets scripts =>
    match c.page.advanceStylesheets with
    | (some (.stopped r), page) => { c with page := page, stage := .finished (report scripts (some r)) }
    | (_, page) => { c with page := page }
  | .finished _ => c

/-- Go as far as can be gone at once; a run has fewer stages than are tried. -/
def drive (c : Collection σ κ) : Collection σ κ := Nat.repeat step 10 c

def stopWaiting (c : Collection σ κ) : Collection σ κ :=
  match c.stage with
  | .waiting => c.enter .beginStop
  | _ => c

def isWaiting (c : Collection σ κ) : Bool :=
  match c.stage with
  | .waiting => true
  | _ => false

def result? (c : Collection σ κ) : Option RunResult :=
  match c.stage with
  | .finished r => some r
  | _ => none

def settle (c : Collection σ κ) : Collection σ κ := { c with page := c.page.settle }

end Collection

end PageCoverage
