namespace PageCoverage

/--
A JSON value. Integers are those a signed or unsigned 64-bit word can hold. An integer and a float are
different values even where they denote the same number.
-/
inductive Value where
  | null
  | bool (b : Bool)
  | int (n : Int)
  | float (x : Float)
  | text (s : String)
  | list (items : List Value)
  | object (members : List (String × Value))
  deriving Inhabited, Repr

/-- The members of an object, keyed by name; the first member with a key counts. -/
abbrev Members := List (String × Value)

namespace Members

/-- The value of the first member called `key`. -/
def get? : Members → String → Option Value
  | [], _ => none
  | (k, v) :: rest, key => if k = key then some v else get? rest key

/-- Put a member at its place in key order; a member with the same key is replaced. -/
def insert (key : String) (value : Value) : Members → Members
  | [] => [(key, value)]
  | (k, v) :: rest =>
    if key = k then (key, value) :: rest
    else if key < k then (key, value) :: (k, v) :: rest
    else (k, v) :: insert key value rest

/-- Members in key order, the last of several with one key kept. -/
def ordered (ms : Members) : Members :=
  ms.foldl (fun acc m => insert m.1 m.2 acc) []

end Members

namespace Value

def empty : Value := .object []

/-- The member `key` of an object; no other value has members. -/
def get? : Value → String → Option Value
  | .object ms, key => Members.get? ms key
  | _, _ => none

def text? : Value → Option String
  | .text s => some s
  | _ => none

mutual

/-- Every object at every depth has its members in key order and each key once. -/
def canonical : Value → Value
  | .list items => .list (canonicalItems items)
  | .object ms => .object (Members.ordered (canonicalMembers ms))
  | v => v
termination_by structural v => v

def canonicalItems : List Value → List Value
  | [] => []
  | v :: rest => v.canonical :: canonicalItems rest
termination_by structural items => items

def canonicalMembers : List (String × Value) → List (String × Value)
  | [] => []
  | (k, v) :: rest => (k, v.canonical) :: canonicalMembers rest
termination_by structural ms => ms

end

mutual

/-- Equality of canonical values: floats are compared as numbers, so the two zeros are equal. -/
def same : Value → Value → Bool
  | .null, .null => true
  | .bool a, .bool b => a == b
  | .int a, .int b => a == b
  | .float a, .float b => a == b
  | .text a, .text b => a == b
  | .list a, .list b => sameItems a b
  | .object a, .object b => sameMembers a b
  | _, _ => false
termination_by structural v => v

def sameItems : List Value → List Value → Bool
  | [], [] => true
  | a :: as, b :: bs => a.same b && sameItems as bs
  | _, _ => false
termination_by structural items => items

def sameMembers : List (String × Value) → List (String × Value) → Bool
  | [], [] => true
  | (k, a) :: as, (l, b) :: bs => k == l && a.same b && sameMembers as bs
  | _, _ => false
termination_by structural ms => ms

end

instance : BEq Value := ⟨same⟩

end Value

end PageCoverage
