import PageCoverage.Schema.Basic

namespace PageCoverage

def Members.occurrences (key : String) (ms : Members) : Nat := ms.countP (·.1 == key)

mutual

/-- Whether no record of a schema names a field twice in a value. What a schema does not describe is not
looked at. -/
def Schema.distinct : Schema → Value → Bool
  | .optional inner, v => inner.distinct v
  | .list item, .list items => items.all item.distinct
  | .record _ fields, .object ms => fields.distinct ms
  | .record _ fields, .list items => fields.distinctItems items
  | _, _ => true
termination_by structural s => s

/-- Whether each field occurs once at most among members. -/
def Fields.distinct : Fields → Members → Bool
  | .nil, _ => true
  | .cons name schema _ rest, ms =>
    Members.occurrences name ms ≤ 1 && (Members.get? ms name).all schema.distinct && rest.distinct ms
termination_by structural fs => fs

/-- Whether no field names one of its own fields twice, fields being given by place. -/
def Fields.distinctItems : Fields → List Value → Bool
  | .nil, _ => true
  | .cons _ schema _ rest, items => items.head?.all schema.distinct && rest.distinctItems items.tail
termination_by structural fs => fs

end

end PageCoverage
