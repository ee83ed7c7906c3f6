namespace PageCoverage

/-- A range with the number of times the target ran it. It holds its start and not its end. -/
structure UsageRange where
  start : UInt32
  stop : UInt32
  hits : UInt32
  deriving DecidableEq, Repr, Inhabited

/-- A range of covered text. -/
structure CoveredRange where
  start : UInt32
  stop : UInt32
  deriving DecidableEq, Repr, Inhabited

/-- The number of offsets from `start` up to `stop`, zero when the ends are inverted. -/
def spanLength (start stop : UInt32) : UInt32 :=
  if start ≤ stop then stop - start else 0

namespace UsageRange

def length (r : UsageRange) : UInt32 := spanLength r.start r.stop

def isEmpty (r : UsageRange) : Bool := r.length == 0

def contains (r : UsageRange) (p : UInt32) : Bool := r.start ≤ p && p < r.stop

end UsageRange

namespace CoveredRange

def length (r : CoveredRange) : UInt32 := spanLength r.start r.stop

def isEmpty (r : CoveredRange) : Bool := r.length == 0

def contains (r : CoveredRange) (p : UInt32) : Bool := r.start ≤ p && p < r.stop

/-- The same range, run once. -/
def toUsage (r : CoveredRange) : UsageRange := ⟨r.start, r.stop, 1⟩

end CoveredRange

/-- Whether an offset lies in one of the ranges. -/
def covers (rs : List CoveredRange) (p : UInt32) : Bool := rs.any (·.contains p)

end PageCoverage
