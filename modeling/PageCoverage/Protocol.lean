import PageCoverage.Json.Value

namespace PageCoverage

/-- A request to the target. -/
structure Command where
  method : String
  params : Value := .empty
  deriving Inhabited

/-- A notice from the target. -/
structure Event where
  method : String
  params : Value
  deriving Inhabited

namespace Method

def profilerEnable := "Profiler.enable"
def profilerDisable := "Profiler.disable"
def startPreciseCoverage := "Profiler.startPreciseCoverage"
def takePreciseCoverage := "Profiler.takePreciseCoverage"
def stopPreciseCoverage := "Profiler.stopPreciseCoverage"
def debuggerEnable := "Debugger.enable"
def debuggerDisable := "Debugger.disable"
def setSkipAllPauses := "Debugger.setSkipAllPauses"
def getScriptSource := "Debugger.getScriptSource"
def domEnable := "DOM.enable"
def domDisable := "DOM.disable"
def cssEnable := "CSS.enable"
def cssDisable := "CSS.disable"
def startRuleUsageTracking := "CSS.startRuleUsageTracking"
def stopRuleUsageTracking := "CSS.stopRuleUsageTracking"
def getStyleSheetText := "CSS.getStyleSheetText"
def runtimeEnable := "Runtime.enable"

end Method

namespace Event

def scriptParsed := "Debugger.scriptParsed"
def styleSheetAdded := "CSS.styleSheetAdded"
def executionContextsCleared := "Runtime.executionContextsCleared"

end Event

end PageCoverage
