import PageCoverage.Json.Token

namespace PageCoverage.Json

/-- A container that is still open; its contents stand latest first. -/
inductive Container where
  | list (items : List Written)
  | object (members : List (List Letter × Written))
  /-- An object that waits for the value of a member. -/
  | member (key : List Letter) (members : List (List Letter × Written))

/-- What may come next. -/
inductive Expected where
  | value
  /-- A value, or the end of a list that has just begun. -/
  | item
  /-- A key, or the end of an object that has just begun. -/
  | firstKey
  | key
  | colon
  /-- A comma, or the end of the innermost container. -/
  | separator
  | done (w : Written)

/-- Where a reader stands: the containers that are still open, and what it expects. -/
structure Reader where
  stack : List Container
  expected : Expected

namespace Reader

/-- A value is complete: it goes into the innermost open container. -/
def accept (w : Written) : List Container → Option Reader
  | [] => some ⟨[], .done w⟩
  | .list items :: rest => some ⟨.list (w :: items) :: rest, .separator⟩
  | .member key members :: rest => some ⟨.object ((key, w) :: members) :: rest, .separator⟩
  | .object _ :: _ => none

/-- Read one token. -/
def step (r : Reader) (t : Token) : Option Reader :=
  match r.expected, t with
  | .value, .atom w | .item, .atom w => accept w r.stack
  | .value, .beginList | .item, .beginList => some ⟨.list [] :: r.stack, .item⟩
  | .value, .beginObject | .item, .beginObject => some ⟨.object [] :: r.stack, .firstKey⟩
  | .firstKey, .atom (.text key) | .key, .atom (.text key) =>
    match r.stack with
    | .object members :: rest => some ⟨.member key members :: rest, .colon⟩
    | _ => none
  | .colon, .colon => some { r with expected := .value }
  | .item, .endList | .separator, .endList =>
    match r.stack with
    | .list items :: rest => accept (.list items.reverse) rest
    | _ => none
  | .firstKey, .endObject | .separator, .endObject =>
    match r.stack with
    | .object members :: rest => accept (.object members.reverse) rest
    | _ => none
  | .separator, .comma =>
    match r.stack with
    | .list _ :: _ => some { r with expected := .value }
    | .object _ :: _ => some { r with expected := .key }
    | _ => none
  | _, _ => none

end Reader

/-- What a text is as JSON. -/
def parse? (text : String) : Option Written := do
  let ts ← tokens? text.toList
  let r ← ts.foldlM Reader.step ⟨[], .value⟩
  match r.expected with
  | .done w => some w
  | _ => none

/-- The value that a text denotes. -/
def read? (depth : Nat) (text : String) : Option Value := do
  let w ← parse? text
  w.value? depth

end PageCoverage.Json
