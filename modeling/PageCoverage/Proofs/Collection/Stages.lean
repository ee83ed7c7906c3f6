import PageCoverage.Collection
import PageCoverage.Proofs.Page.Sides

namespace PageCoverage

namespace Settings

def collects (settings : Settings) : ResourceKind → Bool
  | .script => settings.collectScripts
  | .stylesheet => settings.collectStylesheets

def options (settings : Settings) : (kind : ResourceKind) → kind.Options
  | .script => settings.scripts
  | .stylesheet => settings.stylesheets

end Settings

namespace Stage

/-- The stages in their order. A retreat stands beside the wait. -/
def rank : Stage → Nat
  | .begin => 0
  | .startingScripts => 1
  | .beginStylesheets => 2
  | .startingStylesheets => 3
  | .retreating _ | .waiting => 4
  | .beginStop => 5
  | .stoppingScripts => 6
  | .beginStopStylesheets _ => 7
  | .stoppingStylesheets _ => 8
  | .finished _ => 9

/-- The stage at which a kind is to be started. -/
def beginning : ResourceKind → Stage
  | .script => .begin
  | .stylesheet => .beginStylesheets

def starting : ResourceKind → Stage
  | .script => .startingScripts
  | .stylesheet => .startingStylesheets

/-- The stage behind the start of a kind. -/
def started : ResourceKind → Stage
  | .script => .beginStylesheets
  | .stylesheet => .waiting

variable (scripts r : Option (Except CoverageError (List Entry)))

/-- The stage at which a kind is to be stopped; scripts have ended before stylesheets. -/
def ending : ResourceKind → Stage
  | .script => .beginStop
  | .stylesheet => .beginStopStylesheets scripts

def stopping : ResourceKind → Stage
  | .script => .stoppingScripts
  | .stylesheet => .stoppingStylesheets scripts

/-- The stage behind the stop of a kind. -/
def stopped : ResourceKind → Stage
  | .script => .beginStopStylesheets r
  | .stylesheet => .finished (Collection.report scripts r)

theorem rank_le (stage : Stage) : stage.rank ≤ 9 := by
  cases stage <;> simp [rank]

theorem rank_beginning (kind : ResourceKind) :
    (beginning kind).rank < (starting kind).rank ∧ (starting kind).rank < (started kind).rank ∧
      (starting kind).rank < 4 := by
  cases kind <;> simp [beginning, starting, started, rank]

theorem rank_ending (kind : ResourceKind) :
    (ending scripts kind).rank < (stopping scripts kind).rank ∧
      (stopping scripts kind).rank < (stopped scripts r kind).rank := by
  cases kind <;> simp [ending, stopping, stopped, rank]

end Stage

namespace Collection

variable {σ κ : Type} [Session σ κ]

/-- What becomes of a run when a start fails. -/
def refuse (kind : ResourceKind) (c : Collection σ κ) (e : CoverageError) : Collection σ κ :=
  match kind with
  | .script => c.enter (.finished (.error e))
  | .stylesheet => c.retreat e

variable (page : Page σ κ) (settings : Settings) (scripts : Option (Except CoverageError (List Entry)))
  (kind : ResourceKind)

theorem step_beginning :
    (⟨page, settings, .beginning kind⟩ : Collection σ κ).step =
      let t := (page.scene kind).beginStart (settings.options kind)
      if settings.collects kind then
        match t.1 with
        | .ok () => ⟨page.put kind t.2, settings, .starting kind⟩
        | .error e => refuse kind ⟨page.put kind t.2, settings, .beginning kind⟩ e
      else ⟨page, settings, .started kind⟩ := by
  cases kind with
  | script =>
    simp only [Collection.step, Stage.beginning, Page.startScripts_eq, Settings.options]
    cases ((page.scene .script).beginStart settings.scripts).1 <;> rfl
  | stylesheet =>
    simp only [Collection.step, Stage.beginning, Page.startStylesheets_eq, Settings.options]
    cases ((page.scene .stylesheet).beginStart settings.stylesheets).1 <;> rfl

theorem step_starting :
    (⟨page, settings, .starting kind⟩ : Collection σ κ).step =
      let t := (page.scene kind).advance
      match t.1 with
      | some (.started (.ok ())) => ⟨page.put kind t.2, settings, .started kind⟩
      | some (.started (.error e)) => refuse kind ⟨page.put kind t.2, settings, .starting kind⟩ e
      | _ => ⟨page.put kind t.2, settings, .starting kind⟩ := by
  cases kind with
  | script =>
    simp only [Collection.step, Stage.starting, Page.advanceScripts_eq]
    obtain _ | ⟨_ | _⟩ | _ := (page.scene .script).advance.1 <;> rfl
  | stylesheet =>
    simp only [Collection.step, Stage.starting, Page.advanceStylesheets_eq]
    obtain _ | ⟨_ | _⟩ | _ := (page.scene .stylesheet).advance.1 <;> rfl

theorem step_ending :
    (⟨page, settings, .ending scripts kind⟩ : Collection σ κ).step =
      let t := (page.scene kind).beginStop
      if settings.collects kind then
        match t.1 with
        | .ok () => ⟨page.put kind t.2, settings, .stopping scripts kind⟩
        | .error e => ⟨page.put kind t.2, settings, .stopped scripts (some (.error e)) kind⟩
      else ⟨page, settings, .stopped scripts none kind⟩ := by
  cases kind with
  | script =>
    simp only [Collection.step, Stage.ending, Page.stopScripts_eq]
    cases (page.scene .script).beginStop.1 <;> rfl
  | stylesheet =>
    simp only [Collection.step, Stage.ending, Page.stopStylesheets_eq]
    cases (page.scene .stylesheet).beginStop.1 <;> rfl

theorem step_stopping :
    (⟨page, settings, .stopping scripts kind⟩ : Collection σ κ).step =
      let t := (page.scene kind).advance
      match t.1 with
      | some (.stopped r) => ⟨page.put kind t.2, settings, .stopped scripts (some r) kind⟩
      | _ => ⟨page.put kind t.2, settings, .stopping scripts kind⟩ := by
  cases kind with
  | script =>
    simp only [Collection.step, Stage.stopping, Page.advanceScripts_eq]
    obtain _ | _ | _ := (page.scene .script).advance.1 <;> rfl
  | stylesheet =>
    simp only [Collection.step, Stage.stopping, Page.advanceStylesheets_eq]
    obtain _ | _ | _ := (page.scene .stylesheet).advance.1 <;> rfl

end Collection

end PageCoverage
