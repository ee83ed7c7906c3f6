import PageCoverage.Schema.Basic

namespace PageCoverage

/-- Whether a schema describes values that may be absent. -/
def Schema.isOptional : Schema → Bool
  | .optional _ => true
  | _ => false

mutual

/-- Write data by a schema. JSON has no number for a float that is not finite; it is written as null. -/
def Schema.encode : (s : Schema) → s.Data → Value
  | .bool, b => .bool b
  | .u32, n => .int n.toNat
  | .u64, n => .int n.toNat
  | .i64, n => .int n.toInt
  | .f64, x => if x.isFinite then .float x else .null
  | .text, s => .text s
  | .any, v => v
  | .optional inner, a => match a with
    | none => .null
    | some a => inner.encode a
  | .list item, as => .list (as.map item.encode)
  | .record _ fields, a => .object (fields.encode a)
termination_by structural s => s

/-- Write fields as members; an absent optional field is left out. -/
def Fields.encode : (fs : Fields) → fs.Data → Members
  | .nil, _ => []
  | .cons name schema _ rest, (a, as) =>
    match schema.isOptional, schema.encode a with
    | true, .null => rest.encode as
    | _, v => (name, v) :: rest.encode as
termination_by structural fs => fs

end

def encode {α : Type} [Coded α] (a : α) : Value :=
  (Coded.schema α).encode (Coded.toData a)

end PageCoverage
