import PageCoverage.Tracking.Scene
import PageCoverage.Strategy.Script
import PageCoverage.Strategy.Stylesheet

namespace PageCoverage

/-- The trackers of a page, their session, and what has been logged. Either tracker can run alone. -/
structure Page (σ κ : Type) where
  session : σ
  scripts : Tracker ScriptOptions κ := {}
  stylesheets : Tracker StylesheetOptions κ := {}
  log : List Notice := []

namespace Page

variable {σ κ : Type} [Session σ κ]

/-- The script tracker at work. -/
def scriptScene (p : Page σ κ) : Scene σ ScriptOptions κ := ⟨p.session, p.scripts, p.log⟩

/-- The stylesheet tracker at work. -/
def stylesheetScene (p : Page σ κ) : Scene σ StylesheetOptions κ := ⟨p.session, p.stylesheets, p.log⟩

def withScripts (p : Page σ κ) (s : Scene σ ScriptOptions κ) : Page σ κ :=
  { p with session := s.session, scripts := s.tracker, log := s.log }

def withStylesheets (p : Page σ κ) (s : Scene σ StylesheetOptions κ) : Page σ κ :=
  { p with session := s.session, stylesheets := s.tracker, log := s.log }

def startScripts (p : Page σ κ) (options : ScriptOptions) : Except CoverageError Unit × Page σ κ :=
  let (r, s) := p.scriptScene.beginStart options
  (r, p.withScripts s)

def stopScripts (p : Page σ κ) : Except CoverageError Unit × Page σ κ :=
  let (r, s) := p.scriptScene.beginStop
  (r, p.withScripts s)

def startStylesheets (p : Page σ κ) (options : StylesheetOptions) : Except CoverageError Unit × Page σ κ :=
  let (r, s) := p.stylesheetScene.beginStart options
  (r, p.withStylesheets s)

def stopStylesheets (p : Page σ κ) : Except CoverageError Unit × Page σ κ :=
  let (r, s) := p.stylesheetScene.beginStop
  (r, p.withStylesheets s)

def advanceScripts (p : Page σ κ) : Option Outcome × Page σ κ :=
  let (r, s) := p.scriptScene.advance
  (r, p.withScripts s)

def advanceStylesheets (p : Page σ κ) : Option Outcome × Page σ κ :=
  let (r, s) := p.stylesheetScene.advance
  (r, p.withStylesheets s)

/-- Give up whatever start or stop is under way. -/
def abandon (p : Page σ κ) : Page σ κ :=
  let p := p.withScripts p.scriptScene.abandon
  p.withStylesheets p.stylesheetScene.abandon

def fetchAll (p : Page σ κ) : Page σ κ :=
  let p := p.withScripts p.scriptScene.fetchAll
  p.withStylesheets p.stylesheetScene.fetchAll

/-- Whether the stylesheet tracker attached to the session before the script tracker did. -/
def stylesheetsFirst (p : Page σ κ) : Bool :=
  match p.scripts.attachment?, p.stylesheets.attachment? with
  | some a, some b => b.sink < a.sink
  | _, _ => false

/-- Handle the waiting events of both trackers, of the one that attached first before the other's. -/
def pumpAll (p : Page σ κ) : Page σ κ :=
  if p.stylesheetsFirst then
    let p := p.withStylesheets p.stylesheetScene.pumpAll
    p.withScripts p.scriptScene.pumpAll
  else
    let p := p.withScripts p.scriptScene.pumpAll
    p.withStylesheets p.stylesheetScene.pumpAll

/--
All background work that can proceed does: answered fetches end, waiting events are handled, and the
fetches they begin are sent.
-/
def settle (p : Page σ κ) : Page σ κ := p.fetchAll.pumpAll.fetchAll

/-- The page goes away with both trackers. -/
def drop (p : Page σ κ) : Page σ κ :=
  let p := p.withScripts p.scriptScene.drop
  p.withStylesheets p.stylesheetScene.drop

/-- The page as diagnostics show it. -/
def describe (p : Page σ κ) : String :=
  "PageCoverage \x7b js: " ++ p.scripts.describe ++ ", css: " ++ p.stylesheets.describe ++ " \x7d"

end Page

end PageCoverage
