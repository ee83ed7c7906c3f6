import PageCoverage.Range.Coded
import PageCoverage.Resource.Usage
import PageCoverage.Text.Units

namespace PageCoverage

/-- A resource whose source text has been fetched. -/
structure Record where
  id : ResourceId
  url : String
  source : String
  deriving DecidableEq, Repr

/-- The covered text of one resource. Offsets and lengths count UTF-16 code units. -/
structure Entry where
  url : String
  text : String
  ranges : List CoveredRange
  raw : Option ScriptCoverage := none
  deriving DecidableEq, Repr

instance : Coded Entry where
  schema := .record "CoverageEntry"
    (.cons "url" .text .required
      (.cons "text" .text .required
        (.cons "ranges" (Coded.schema (List CoveredRange)) .required
          (.cons "rawScriptCoverage" (Coded.schema (Option ScriptCoverage)) (.value .null) .nil))))
  toData e := (e.url, e.text, Coded.toData e.ranges, Coded.toData e.raw, ())
  ofData := fun (url, text, ranges, raw, _) => ⟨url, text, Coded.ofData ranges, Coded.ofData raw⟩

/-- A share in percent; of nothing, everything is covered. -/
def percent (covered total : Nat) : Float :=
  if total = 0 then 100 else Float.ofNat covered / Float.ofNat total * 100

namespace Entry

def covered (e : Entry) : Nat := e.ranges.foldr (fun r n => r.length.toNat + n) 0

def total (e : Entry) : Nat := Text.units e.text.toList

/-- The covered share of the text, at most all of it. -/
def percent (e : Entry) : Float := PageCoverage.percent (min e.covered e.total) e.total

/-- The covered pieces of the text; a range that leaves the text or splits a character has none. -/
def coveredText (e : Entry) : List String :=
  e.ranges.filterMap fun r =>
    (Text.slice e.text.toList r.start.toNat r.stop.toNat).map String.ofList

end Entry

end PageCoverage
