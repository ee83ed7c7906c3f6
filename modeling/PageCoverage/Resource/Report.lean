import PageCoverage.Resource.Entry
import PageCoverage.Decimal.Fixed

namespace PageCoverage

/-- Entries in collection order. -/
structure Report where
  entries : List Entry
  deriving DecidableEq, Repr

instance : Coded Report where
  schema := .record "CoverageReport" (.cons "entries" (Coded.schema (List Entry)) .required .nil)
  toData r := (Coded.toData r.entries, ())
  ofData := fun (entries, _) => ⟨Coded.ofData entries⟩

def Text.occursIn (pattern : List Char) : List Char → Bool
  | [] => pattern.isEmpty
  | c :: cs => pattern.isPrefixOf (c :: cs) || occursIn pattern cs

def Entry.summaryLine (e : Entry) : String :=
  "  " ++ e.url ++ " - " ++ oneDecimal e.percent ++ "% (" ++ toString e.covered ++ "/" ++ toString e.total ++ ")" ++
    (match e.raw with
      | some raw => ", " ++ toString raw.executed ++ "/" ++ toString raw.functions.length ++ " functions"
      | none => "") ++
    "\n"

namespace Report

def append (r : Report) (entries : List Entry) : Report := ⟨r.entries ++ entries⟩

def covered (r : Report) : Nat := r.entries.foldr (fun e n => e.covered + n) 0

def total (r : Report) : Nat := r.entries.foldr (fun e n => e.total + n) 0

/-- The covered length by the text length; ranges past the end of a text may take it above a hundred. -/
def percent (r : Report) : Float := PageCoverage.percent r.covered r.total

def filterByUrl (r : Report) (pattern : String) : Report :=
  ⟨r.entries.filter fun e => Text.occursIn pattern.toList e.url.toList⟩

/-- A line of totals, then a line for each entry. -/
def summary (r : Report) : String :=
  "Coverage: " ++ oneDecimal r.percent ++ "% (" ++ toString r.covered ++ "/" ++ toString r.total ++ " bytes)\n" ++
    String.join (r.entries.map Entry.summaryLine)

end Report

end PageCoverage
