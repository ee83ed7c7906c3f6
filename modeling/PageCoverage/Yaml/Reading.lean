import PageCoverage.Schema.Basic
import PageCoverage.Text.Hex
import PageCoverage.Yaml.Node

namespace PageCoverage

namespace Yaml

/-- The anchored nodes of a document in the order in which they begin. -/
abbrev Anchors := List (Nat × Node)

/-- The text of a scalar that may denote something else than text: a plain one, or a literal one with the
tag of the given type. -/
def Node.untyped? (type : String) : Node → Option String
  | .scalar _ tag style text =>
    if style = .plain ∨ (style = .literal ∧ tag = some ("tag:yaml.org,2002:" ++ type)) then some text else none
  | _ => none

def boolOf? (text : String) : Option Bool :=
  if ["true", "True", "TRUE"].contains text then some true
  else if ["false", "False", "FALSE"].contains text then some false
  else none

/-- The number that digits below `base` write. -/
def digitsOf? (base : Nat) (ds : List Char) : Option Nat :=
  if ds = [] then none
  else ds.foldlM
    (fun n d => (Text.hexDigit? d).bind fun k => if k < base then some (n * base + k) else none) 0

/-- The natural number that a text denotes: decimal without leading zeros, or marked as hexadecimal,
octal or binary; a plus sign may stand in front. -/
def natOf? (text : String) : Option Nat :=
  let digits := match text.toList with
    | '+' :: ds => ds
    | ds => ds
  match digits with
  | '0' :: 'x' :: ds => digitsOf? 16 ds
  | '0' :: 'o' :: ds => digitsOf? 8 ds
  | '0' :: 'b' :: ds => digitsOf? 2 ds
  | '0' :: _ :: _ => none
  | ds => digitsOf? 10 ds

/-- Whether nothing is written in the place of a node. -/
def Node.isVoid : Node → Bool
  | .scalar _ _ .plain text => text.isEmpty
  | _ => false

/-- The pairs of a mapping by the texts of their keys. All keys have to be scalars. -/
def Node.members? (anchors : Anchors) : Node → Option (List (String × Node))
  | .mapping _ pairs => pairs.mapM fun (k, v) => ((k.resolve anchors).text?).map (·, v)
  | n => if n.isVoid then some [] else none

end Yaml

open Yaml

mutual

/-- The value that a schema describes. Only records of numbers, truth values and texts are read. -/
def Schema.ofNode? (anchors : Anchors) : Schema → Node → Option Value
  | .bool, n => ((n.resolve anchors).untyped? "bool").bind boolOf? |>.map .bool
  | .u32, n | .u64, n | .i64, n =>
    ((n.resolve anchors).untyped? "int").bind natOf? |>.map fun k => .int k
  | .text, n => (n.resolve anchors).text?.map .text
  | .record _ fields, n => do
    let members ← (n.resolve anchors).members? anchors
    (fields.ofMembers? anchors members).map .object
  | _, _ => none
termination_by structural s => s

/-- The members that the fields name; each may occur once. Other members are ignored. -/
def Fields.ofMembers? (anchors : Anchors) : Fields → List (String × Node) → Option Members
  | .nil, _ => some []
  | .cons name schema _ rest, members => do
    let more ← rest.ofMembers? anchors members
    match members.filter (·.1 == name) with
    | [] => some more
    | [(_, n)] => (schema.ofNode? anchors n).map fun v => (name, v) :: more
    | _ => none
termination_by structural fs => fs

end

end PageCoverage
