import PageCoverage.Resource.Entry

namespace PageCoverage

/--
Fetched records in the order in which their ids first came, with an index from ids to places, and
whether more are taken. A record of another generation is refused.
-/
structure Cache where
  generation : UInt64 := 0
  accepting : Bool := false
  records : List Record := []
  index : List (ResourceId × Nat) := []
  deriving DecidableEq, Repr, Inhabited

namespace Cache

def slot? (c : Cache) (id : ResourceId) : Option Nat := c.index.lookup id

def clear (c : Cache) : Cache := { c with records := [], index := [] }

/-- Begin the next generation. Generations are counted in a 64-bit word. -/
def advance (c : Cache) : Cache := { c with generation := c.generation + 1 }

/-- Forget everything for a new session; nothing is taken until the cache is opened. -/
def beginSession (c : Cache) : Cache := { c.clear.advance with accepting := false }

/-- Take records from now on. -/
def openUp (c : Cache) : Cache := { c with accepting := true }

/-- Take no more; the records stay until they are taken out. -/
def close (c : Cache) : Cache := { c.advance with accepting := false }

/-- Forget the records and go on taking. A closed cache keeps what it holds. -/
def reset (c : Cache) : Bool × Cache := if c.accepting then (true, c.clear.advance) else (false, c)

/-- The generation to put on a new fetch, while records are taken. -/
def acceptingGeneration (c : Cache) : Option UInt64 := if c.accepting then some c.generation else none

/-- Put a record in the place of the one with its id, or behind all others. -/
def put (c : Cache) (r : Record) : Cache :=
  match c.slot? r.id with
  | some i => { c with records := c.records.set i r }
  | none => { c with records := c.records ++ [r], index := (r.id, c.records.length) :: c.index }

/-- Take a record of the present generation; any other is refused. -/
def insert (c : Cache) (generation : UInt64) (r : Record) : Bool × Cache :=
  if c.accepting ∧ generation = c.generation then (true, c.put r) else (false, c)

def takeRecords (c : Cache) : List Record × Cache := (c.records, c.clear)

def size (c : Cache) : Nat := c.records.length

end Cache

end PageCoverage
