import PageCoverage.Collection
import PageCoverage.Json.Print
import PageCoverage.Schema.Encode
import PageCoverage.Text.Lines

namespace PageCoverage

inductive OutputFormat where
  | summary
  | json
  deriving DecidableEq, Repr, Inhabited

inductive Style where
  | bold
  | red
  | green
  | yellow
  deriving DecidableEq, Repr

def Style.code : Style → String
  | .bold => "1"
  | .red => "31"
  | .green => "32"
  | .yellow => "33"

/-- A text in a style; behind it the style is off again. -/
def Style.apply (style : Style) (text : String) : String := "\x1b[" ++ style.code ++ "m" ++ text ++ "\x1b[0m"

/-- From eighty percent a share is good, from fifty fair. -/
def percentStyle (percent : Float) : Style :=
  if percent ≥ 80 then .green else if percent ≥ 50 then .yellow else .red

/-- The head of a section. -/
def Report.heading (r : Report) (title : String) (color : Bool) : String :=
  let share := oneDecimal r.percent ++ "%"
  (if color then Style.bold.apply title ++ " " ++ (percentStyle r.percent).apply share
    else title ++ " " ++ share) ++
    " (" ++ toString r.entries.length ++ " resources, " ++ toString r.covered ++ "/" ++ toString r.total ++ " bytes)\n"

/-- A section of the summary: the head, and the report's own summary without its line of totals. -/
def Report.section (r : Report) (title : String) (color : Bool) : String :=
  r.heading title color ++
    String.join (((Text.lines r.summary.toList).drop 1).map fun line => String.ofList line ++ "\n")

def RunReport.render (r : RunReport) (format : OutputFormat) (color : Bool) : String :=
  match format with
  | .summary =>
    (r.scripts.elim "" fun s => s.section "JS" color) ++ (r.stylesheets.elim "" fun s => s.section "CSS" color)
  | .json => Json.pretty 0 (encode r) ++ "\n"

end PageCoverage
