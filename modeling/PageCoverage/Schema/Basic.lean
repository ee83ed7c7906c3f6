import PageCoverage.Json.Value

namespace PageCoverage

/-- What a missing field of a record means. -/
inductive Fallback where
  | required
  /-- A missing field reads as the value. -/
  | value (v : Value)
  /-- A missing member reads as the value, a missing array element is an error. -/
  | member (v : Value)

mutual

/-- The shape of a JSON value. It determines the type of the data that the value is read as. -/
inductive Schema where
  | bool
  | u32
  | u64
  | i64
  | f64
  | text
  | any
  /-- Either null or a value of the schema. -/
  | optional (inner : Schema)
  | list (item : Schema)
  /-- An object, or an array of the fields in order. -/
  | record (name : String) (fields : Fields)

/-- The fields of a record in declaration order. -/
inductive Fields where
  | nil
  | cons (name : String) (schema : Schema) (fallback : Fallback) (rest : Fields)

end

mutual

/-- The data a schema describes. -/
@[reducible] def Schema.Data : Schema → Type
  | .bool => Bool
  | .u32 => UInt32
  | .u64 => UInt64
  | .i64 => Int64
  | .f64 => Float
  | .text => String
  | .any => Value
  | .optional inner => Option inner.Data
  | .list item => List item.Data
  | .record _ fields => fields.Data
termination_by structural s => s

/-- The data of a record's fields, nested to the right. -/
@[reducible] def Fields.Data : Fields → Type
  | .nil => Unit
  | .cons _ schema _ rest => schema.Data × rest.Data
termination_by structural fs => fs

end

namespace Fields

def count : Fields → Nat
  | .nil => 0
  | .cons _ _ _ rest => rest.count + 1
termination_by structural fs => fs

def names : Fields → List String
  | .nil => []
  | .cons name _ _ rest => name :: rest.names
termination_by structural fs => fs

end Fields

/-- A type whose values are written as JSON by a schema. -/
class Coded (α : Type) where
  schema : Schema
  toData : α → schema.Data
  ofData : schema.Data → α

instance {α : Type} [Coded α] : Coded (List α) where
  schema := .list (Coded.schema α)
  toData := List.map Coded.toData
  ofData := List.map Coded.ofData

instance {α : Type} [Coded α] : Coded (Option α) where
  schema := .optional (Coded.schema α)
  toData := Option.map Coded.toData
  ofData := Option.map Coded.ofData

end PageCoverage
