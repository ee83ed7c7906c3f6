import PageCoverage.Json.Written
import PageCoverage.Schema.Basic

namespace PageCoverage

open Json (Letter Written spelled?)

/-- Read the members of an object one by one. A key has to spell a text, and `read` gives nothing for a key that
is passed over. -/
def readMembers? (read : String → Written → Option (Option Value)) : List (List Letter × Written) → Option Members
  | [] => some []
  | (key, w) :: rest => do
    let key ← spelled? key
    let v ← read key w
    let ms ← readMembers? read rest
    some (v.toList.map (key, ·) ++ ms)

mutual

/-- The value that a schema reads of what is written. Of a record it reads the fields. What other members hold it
passes over, whether or not that has a value and however deep it is. -/
def Schema.read? : Schema → Nat → Written → Option Value
  | .optional inner, depth, w => inner.read? depth w
  | .list item, depth, w =>
    match w, depth with
    | .list items, depth + 1 => (items.mapM (item.read? depth)).map .list
    | w, depth => w.value? depth
  | .record _ fields, depth, w =>
    match w, depth with
    | .object ms, depth + 1 => (readMembers? (fields.readMember? depth) ms).map .object
    | .list items, depth + 1 => (fields.readItems? depth items).map .list
    | w, depth => w.value? depth
  | _, depth, w => w.value? depth
termination_by structural s => s

/-- The value under a key, if the key names a field. -/
def Fields.readMember? : Fields → Nat → String → Written → Option (Option Value)
  | .nil, _, _, _ => some none
  | .cons name schema _ rest, depth, key, w =>
    if key = name then (schema.read? depth w).map some else rest.readMember? depth key w
termination_by structural fs => fs

/-- The values of an array, whose elements are fields by place. It has no more of them than there are fields. -/
def Fields.readItems? : Fields → Nat → List Written → Option (List Value)
  | _, _, [] => some []
  | .nil, _, _ :: _ => none
  | .cons _ schema _ rest, depth, w :: items => do
    let v ← schema.read? depth w
    let vs ← rest.readItems? depth items
    some (v :: vs)
termination_by structural fs => fs

end

end PageCoverage
