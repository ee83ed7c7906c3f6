import PageCoverage.Page

namespace PageCoverage

/-- A start or a stop. -/
inductive Operation where
  | startScripts (options : ScriptOptions)
  | stopScripts
  | startStylesheets (options : StylesheetOptions)
  | stopStylesheets
  deriving DecidableEq, Repr

namespace Operation

variable {σ κ : Type} [Session σ κ]

def begin (p : Page σ κ) : Operation → Except CoverageError Unit × Page σ κ
  | startScripts options => p.startScripts options
  | stopScripts => p.stopScripts
  | startStylesheets options => p.startStylesheets options
  | stopStylesheets => p.stopStylesheets

def advance (p : Page σ κ) : Operation → Option Outcome × Page σ κ
  | startScripts _ | stopScripts => p.advanceScripts
  | startStylesheets _ | stopStylesheets => p.advanceStylesheets

end Operation

end PageCoverage
