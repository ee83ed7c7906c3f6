import PageCoverage.Strategy.Basic

namespace PageCoverage

/-- The announcement of a script. -/
structure ScriptParsed where
  id : String
  url : String

/-- The answer to a fetch of a script. -/
structure ScriptSource where
  source : String

instance : Coded ScriptParsed where
  schema := .record "ScriptParsed"
    (.cons "scriptId" .text .required (.cons "url" .text (.value (.text "")) .nil))
  toData s := (s.id, s.url, ())
  ofData := fun (id, url, _) => ⟨id, url⟩

instance : Coded ScriptSource where
  schema := .record "ScriptSource" (.cons "scriptSource" .text .required .nil)
  toData s := (s.source, ())
  ofData := fun (source, _) => ⟨source⟩

/-- Whether a URL belongs to a script that test automation put into the page. -/
def isInjectedUrl (url : String) : Bool := "probar:".toList.isPrefixOf url.toList

/-- The URL reported for a script that has none. -/
def anonymousUrl (id : ResourceId) : String := "debugger://VM" ++ id.text

/-- Read a script's registration: injected scripts are left out, scripts without a URL unless wanted. -/
def ScriptOptions.registration (o : ScriptOptions) (params : Value) :
    Except CoverageError (Option Registration) := do
  let parsed ← decodePayload ScriptParsed Event.scriptParsed params
  if isInjectedUrl parsed.url then .ok none
  else if parsed.url = "" then
    .ok (if o.reportAnonymous then some ⟨⟨parsed.id⟩, anonymousUrl ⟨parsed.id⟩⟩ else none)
  else .ok (some ⟨⟨parsed.id⟩, parsed.url⟩)

instance : Strategy ScriptOptions where
  kind := .script
  registrationEvent := Event.scriptParsed
  resetOnNavigation o := o.resetOnNavigation
  enableCommands o :=
    [{ method := Method.profilerEnable },
     { method := Method.startPreciseCoverage
       params := .object [("callCount", .bool o.includeRaw), ("detailed", .bool o.blockCoverage)] },
     { method := Method.debuggerEnable },
     { method := Method.setSkipAllPauses, params := .object [("skip", .bool true)] }]
  collectCommand _ := { method := Method.takePreciseCoverage }
  disableCommands _ :=
    [{ method := Method.stopPreciseCoverage },
     { method := Method.profilerDisable },
     { method := Method.debuggerDisable }]
  registration := ScriptOptions.registration
  fetchCommand _ id := { method := Method.getScriptSource, params := .object [("scriptId", .text id.text)] }
  sourceText _ v := (decodePayload ScriptSource Method.getScriptSource v).map ScriptSource.source
  usage o v :=
    (decodePayload ScriptSnapshot Method.takePreciseCoverage v).map fun s => s.usage o.includeRaw

end PageCoverage
