import PageCoverage.Schema.Basic
import PageCoverage.Error

namespace PageCoverage

structure ScriptOptions where
  /-- Forget scripts when the page's execution contexts are cleared. -/
  resetOnNavigation : Bool := true
  /-- Report scripts without a URL under a made-up one. -/
  reportAnonymous : Bool := false
  /-- Keep the payload of each script; call counts are requested too. -/
  includeRaw : Bool := false
  /-- Count blocks rather than whole functions. -/
  blockCoverage : Bool := true
  deriving DecidableEq, Repr, Inhabited

structure StylesheetOptions where
  /-- Forget stylesheets when the page's execution contexts are cleared. -/
  resetOnNavigation : Bool := true
  deriving DecidableEq, Repr, Inhabited

/-- The settings of a run. -/
structure Settings where
  collectScripts : Bool := true
  collectStylesheets : Bool := true
  scripts : ScriptOptions := {}
  stylesheets : StylesheetOptions := {}
  /-- How long to collect, in seconds. -/
  duration : UInt64 := 5
  deriving DecidableEq, Repr, Inhabited

instance : Coded ScriptOptions where
  schema := .record "JsCoverageOptions"
    (.cons "reset_on_navigation" .bool (.value (.bool true))
      (.cons "report_anonymous_scripts" .bool (.value (.bool false))
        (.cons "include_raw_script_coverage" .bool (.value (.bool false))
          (.cons "use_block_coverage" .bool (.value (.bool true)) .nil))))
  toData o := (o.resetOnNavigation, o.reportAnonymous, o.includeRaw, o.blockCoverage, ())
  ofData := fun (reset, anonymous, raw, block, _) => ⟨reset, anonymous, raw, block⟩

instance : Coded StylesheetOptions where
  schema := .record "CssCoverageOptions" (.cons "reset_on_navigation" .bool (.value (.bool true)) .nil)
  toData o := (o.resetOnNavigation, ())
  ofData := fun (reset, _) => ⟨reset⟩

instance : Coded Settings where
  schema := .record "CoverageSettings"
    (.cons "collect_js" .bool (.value (.bool true))
      (.cons "collect_css" .bool (.value (.bool true))
        (.cons "js" (Coded.schema ScriptOptions) (.value .empty)
          (.cons "css" (Coded.schema StylesheetOptions) (.value .empty)
            (.cons "duration_secs" .u64 (.value (.int 5)) .nil)))))
  toData s :=
    (s.collectScripts, s.collectStylesheets, Coded.toData s.scripts, Coded.toData s.stylesheets, s.duration, ())
  ofData := fun (js, css, scripts, stylesheets, duration, _) =>
    ⟨js, css, Coded.ofData scripts, Coded.ofData stylesheets, duration⟩

/-- Refuse settings that would collect nothing. -/
def Settings.validate (s : Settings) : Except CoverageError Unit :=
  if s.collectScripts || s.collectStylesheets then .ok ()
  else .error (.config "neither collect_js nor collect_css is enabled")

end PageCoverage
