import PageCoverage.Decimal.Scaled
import PageCoverage.Json.Value

namespace PageCoverage.Json

/-- What a string is made of. Half a surrogate pair can be written by itself, but it belongs to no text. -/
inductive Letter where
  | char (c : Char)
  | half (unit : Nat)
  deriving DecidableEq, Repr

/-- The characters that letters stand for, if there is no half pair among them. -/
def characters? : List Letter → Option (List Char)
  | [] => some []
  | .char c :: s => (characters? s).map (c :: ·)
  | .half _ :: _ => none

/-- The text that letters spell. -/
def spelled? (s : List Letter) : Option String := (characters? s).map String.ofList

/-- A number digit by digit; it may be larger than any double. -/
structure Numeral where
  negative : Bool
  whole : List Char
  fraction : Option (List Char)
  exponent : Option Int
  deriving DecidableEq, Repr

def digitsValue (ds : List Char) : Nat :=
  ds.foldl (fun n d => 10 * n + (d.toNat - '0'.toNat)) 0

/-- A whole number that fits a 64-bit word and is not written as a negative zero is an integer, any
other number a float, unless it is too large for one. -/
def Numeral.value? (n : Numeral) : Option Value :=
  let k := digitsValue n.whole
  let isWhole := n.fraction.isNone && n.exponent.isNone
  if isWhole ∧ n.negative ∧ k ≠ 0 ∧ k ≤ 0x8000000000000000 then some (.int (-k))
  else if isWhole ∧ ¬n.negative ∧ k ≤ 0xFFFFFFFFFFFFFFFF then some (.int k)
  else
    (Decimal.ofDigits n.whole (n.fraction.getD []) (n.exponent.getD 0)).toFloat?.map fun x =>
      .float (if n.negative then -x else x)

/-- JSON as it is written, whether or not its numbers and strings have a value and however deep it is. Members
stand as they do in the text. -/
inductive Written where
  | null
  | bool (b : Bool)
  | number (n : Numeral)
  | text (s : List Letter)
  | list (items : List Written)
  | object (members : List (List Letter × Written))
  deriving Inhabited, Repr

namespace Written

mutual

/-- The value that is written, with containers in at most `depth` levels. Of several members with one key the
last counts. -/
def value? : Nat → Written → Option Value
  | _, .null => some .null
  | _, .bool b => some (.bool b)
  | _, .number n => n.value?
  | _, .text s => (spelled? s).map .text
  | 0, .list _ => none
  | depth + 1, .list items => (itemValues? depth items).map .list
  | 0, .object _ => none
  | depth + 1, .object members => (memberValues? depth members).map fun ms => .object (Members.ordered ms)
termination_by structural _ w => w

def itemValues? : Nat → List Written → Option (List Value)
  | _, [] => some []
  | depth, w :: rest => do
    let v ← value? depth w
    let vs ← itemValues? depth rest
    some (v :: vs)
termination_by structural _ items => items

def memberValues? : Nat → List (List Letter × Written) → Option Members
  | _, [] => some []
  | depth, (key, w) :: rest => do
    let key ← spelled? key
    let v ← value? depth w
    let ms ← memberValues? depth rest
    some ((key, v) :: ms)
termination_by structural _ members => members

end

end Written

end PageCoverage.Json
