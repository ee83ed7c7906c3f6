import PageCoverage.Range.Basic

namespace PageCoverage

/-- Which end of a range a point is. -/
inductive Side where
  | closing
  | opening
  deriving DecidableEq, Repr, Inhabited

/-- One end of a usage range, with the range's length and hit count. -/
structure Boundary where
  offset : UInt32
  side : Side
  length : UInt32
  hits : UInt32
  deriving DecidableEq, Repr, Inhabited

/-- The start and the end of a range. -/
def UsageRange.boundaries (r : UsageRange) : List Boundary :=
  [⟨r.start, .opening, r.length, r.hits⟩, ⟨r.stop, .closing, r.length, r.hits⟩]

namespace Boundary

/--
The order of the sweep: by offset, ends before starts, a longer range opening before a shorter one
and closing after it. Points that this leaves tied keep their places.
-/
def precedes (a b : Boundary) : Bool :=
  if a.offset = b.offset then
    match a.side, b.side with
    | .closing, .closing => a.length ≤ b.length
    | .closing, .opening => true
    | .opening, .closing => false
    | .opening, .opening => b.length ≤ a.length
  else a.offset < b.offset

/-- The boundary points of usage ranges in sweep order. -/
def sorted (rs : List UsageRange) : List Boundary :=
  (rs.flatMap UsageRange.boundaries).mergeSort precedes

/-- The stack of hit counts after a point; a closing point takes the top off, if there is one. -/
def apply (stack : List UInt32) (b : Boundary) : List UInt32 :=
  match b.side with
  | .opening => b.hits :: stack
  | .closing => stack.tail

/-- The stack left by points on an empty stack. -/
def replay (bs : List Boundary) : List UInt32 := bs.foldl apply []

end Boundary

/-- Whether the innermost open range was hit. -/
def isHit : List UInt32 → Bool
  | [] => false
  | hits :: _ => 0 < hits

/-- Where a sweep stands: the open ranges' hit counts, the last point, and what is covered so far,
the latest range first. -/
structure Sweep where
  stack : List UInt32
  last : UInt32
  covered : List CoveredRange
  deriving Repr

namespace Sweep

def initial : Sweep := ⟨[], 0, []⟩

/-- Cover the text from `start` to `stop`, joined to the latest range where they touch. -/
def extend (covered : List CoveredRange) (start stop : UInt32) : List CoveredRange :=
  match covered with
  | [] => [⟨start, stop⟩]
  | r :: rest => if r.stop = start then ⟨r.start, stop⟩ :: rest else ⟨start, stop⟩ :: r :: rest

def step (s : Sweep) (b : Boundary) : Sweep :=
  { stack := Boundary.apply s.stack b
    last := b.offset
    covered := if s.last < b.offset ∧ isHit s.stack then extend s.covered s.last b.offset else s.covered }

def run (bs : List Boundary) : Sweep := bs.foldl step initial

end Sweep

/--
The covered text of usage ranges, as sorted ranges that do not touch. Where ranges are nested, an offset
is covered when the innermost range around it has a positive hit count.
-/
def flatten (rs : List UsageRange) : List CoveredRange :=
  (Sweep.run (Boundary.sorted rs)).covered.reverse

/-- Combine covered ranges, for instance of two runs. -/
def combine (rs : List CoveredRange) : List CoveredRange :=
  flatten (rs.map CoveredRange.toUsage)

end PageCoverage
