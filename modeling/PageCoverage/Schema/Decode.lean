import PageCoverage.Schema.Basic
import PageCoverage.Text.Quoted
import PageCoverage.Decimal.Shortest

namespace PageCoverage

/-- Why a value does not fit a schema. -/
inductive DecodeError where
  /-- A value of another kind than expected. -/
  | wrongType (found : Value) (expected : String)
  /-- An integer that the expected word cannot hold. -/
  | outOfRange (found : Int) (expected : String)
  /-- A record without a field that has no fallback. -/
  | missingField (name : String)
  /-- An array that ends before a field that has no fallback. -/
  | tooShort (length : Nat) (name : String) (count : Nat)
  /-- An array with more elements than fields. -/
  | tooLong (length : Nat)

/-- A value as an error message names it. -/
def Value.describe : Value → String
  | .null => "null"
  | .bool b => "boolean `" ++ (if b then "true" else "false") ++ "`"
  | .int n => "integer `" ++ toString n ++ "`"
  | .float x => "floating point `" ++ shortestText x ++ "`"
  | .text s => "string " ++ Text.quoted s
  | .list _ => "sequence"
  | .object _ => "map"

def DecodeError.message : DecodeError → String
  | .wrongType found expected => "invalid type: " ++ found.describe ++ ", expected " ++ expected
  | .outOfRange found expected => "invalid value: " ++ (Value.int found).describe ++ ", expected " ++ expected
  | .missingField name => "missing field `" ++ name ++ "`"
  | .tooShort length name count =>
    "invalid length " ++ toString length ++ ", expected struct " ++ name ++ " with " ++ toString count ++
      (if count = 1 then " element" else " elements")
  | .tooLong length => "invalid length " ++ toString length ++ ", expected fewer elements in array"

/-- The outcome of reading an object's members as fields. -/
inductive Reading (α : Type) where
  | done (data : α)
  /-- The value of the member `key` does not fit. -/
  | bad (key : String) (error : DecodeError)
  | missing (name : String)

namespace Reading

/--
The reading of a field and of those declared after it. Members are visited in key order, so of two bad
values the one with the smaller key counts; fields are missed in declaration order, after all values.
-/
def and {α β : Type} : Reading α → Reading β → Reading (α × β)
  | .done a, .done b => .done (a, b)
  | .bad k e, .bad l f => if l < k then .bad l f else .bad k e
  | .bad k e, _ => .bad k e
  | _, .bad l f => .bad l f
  | .missing name, _ => .missing name
  | _, .missing name => .missing name

/-- The reading of one field from the member that carries its name, if there is one. -/
def ofField {α : Type} (name : String) (fallback : Fallback) (read : Value → Except DecodeError α) :
    Option Value → Reading α
  | some v =>
    match read v with
    | .ok a => .done a
    | .error e => .bad name e
  | none =>
    match fallback with
    | .required => .missing name
    | .value v | .member v =>
      match read v with
      | .ok a => .done a
      | .error _ => .missing name

def toExcept {α : Type} : Reading α → Except DecodeError α
  | .done a => .ok a
  | .bad _ e => .error e
  | .missing name => .error (.missingField name)

end Reading

/-- An integer from `low` up to `high`. -/
def decodeInt (low high : Int) (expected : String) : Value → Except DecodeError Int
  | .int n => if low ≤ n ∧ n ≤ high then .ok n else .error (.outOfRange n expected)
  | v => .error (.wrongType v expected)

/-- Read every item of a list; the first bad one decides. -/
def decodeItems {α : Type} (item : Value → Except DecodeError α) : List Value → Except DecodeError (List α)
  | [] => .ok []
  | v :: rest =>
    match item v with
    | .error e => .error e
    | .ok a => (decodeItems item rest).map (a :: ·)

/-- Read the field at place `index` of a record from the array elements that are left. -/
def readElement {α : Type} (name : String) (count index : Nat) (fallback : Fallback)
    (read : Value → Except DecodeError α) : List Value → Except DecodeError α
  | v :: _ => read v
  | [] =>
    match fallback with
    | .value v => read v
    | _ => .error (.tooShort index name count)

mutual

/-- Read a value by a schema. -/
def Schema.decode : (s : Schema) → Value → Except DecodeError s.Data
  | .bool, v => match v with
    | .bool b => .ok b
    | v => .error (.wrongType v "a boolean")
  | .u32, v => (decodeInt 0 0xFFFFFFFF "u32" v).map fun n => UInt32.ofNat n.toNat
  | .u64, v => (decodeInt 0 0xFFFFFFFFFFFFFFFF "u64" v).map fun n => UInt64.ofNat n.toNat
  | .i64, v => (decodeInt (-0x8000000000000000) 0x7FFFFFFFFFFFFFFF "i64" v).map Int64.ofInt
  | .f64, v => match v with
    | .float x => .ok x
    | .int n => .ok (Float.ofInt n)
    | v => .error (.wrongType v "f64")
  | .text, v => match v with
    | .text s => .ok s
    | v => .error (.wrongType v "a string")
  | .any, v => .ok v
  | .optional inner, v => match v with
    | .null => .ok none
    | v => (inner.decode v).map some
  | .list item, v => match v with
    | .list items => decodeItems item.decode items
    | v => .error (.wrongType v "a sequence")
  | .record name fields, v => match v with
    | .object ms => (fields.ofMembers ms).toExcept
    | .list items => fields.ofItems name fields.count items.length 0 items
    | v => .error (.wrongType v ("struct " ++ name))
termination_by structural s => s

/-- Read an object's members as fields. -/
def Fields.ofMembers : (fs : Fields) → Members → Reading fs.Data
  | .nil, _ => .done ()
  | .cons name schema fallback rest, ms =>
    (Reading.ofField name fallback schema.decode (Members.get? ms name)).and (rest.ofMembers ms)
termination_by structural fs => fs

/-- Read an array's elements as fields, from the field at place `index` on. -/
def Fields.ofItems : (fs : Fields) → String → Nat → Nat → Nat → List Value → Except DecodeError fs.Data
  | .nil, _, _, length, _, items => match items with
    | [] => .ok ()
    | _ :: _ => .error (.tooLong length)
  | .cons _ schema fallback rest, name, count, length, index, items =>
    match readElement name count index fallback schema.decode items with
    | .error e => .error e
    | .ok a => (rest.ofItems name count length (index + 1) items.tail).map (a, ·)
termination_by structural fs => fs

end

/-- Read a value of a coded type. -/
def decode (α : Type) [Coded α] (v : Value) : Except DecodeError α :=
  ((Coded.schema α).decode v).map Coded.ofData

end PageCoverage
