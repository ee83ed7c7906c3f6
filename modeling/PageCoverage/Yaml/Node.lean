import PageCoverage.Yaml.Token

namespace PageCoverage.Yaml

/-- A node of a document, with the number of its anchor if it has one. -/
inductive Node where
  | alias (anchor : Nat)
  | scalar (anchor : Option Nat) (tag : Option String) (style : ScalarStyle) (text : String)
  | sequence (anchor : Option Nat) (items : List Node)
  | mapping (anchor : Option Nat) (pairs : List (Node × Node))
  deriving Inhabited, Repr

namespace Node

def empty : Node := .scalar none none .plain ""

/-- The entry of a node in the table of anchors. -/
def entry (anchor : Option Nat) (n : Node) : List (Nat × Node) := (anchor.map (·, n)).toList

mutual

/-- The anchored nodes in the order in which they begin. -/
def anchored : Node → List (Nat × Node)
  | .alias _ => []
  | .scalar anchor tag style text => entry anchor (.scalar anchor tag style text)
  | .sequence anchor items => entry anchor (.sequence anchor items) ++ anchoredItems items
  | .mapping anchor pairs => entry anchor (.mapping anchor pairs) ++ anchoredPairs pairs
termination_by structural n => n

def anchoredItems : List Node → List (Nat × Node)
  | [] => []
  | n :: rest => n.anchored ++ anchoredItems rest
termination_by structural items => items

def anchoredPairs : List (Node × Node) → List (Nat × Node)
  | [] => []
  | (k, v) :: rest => k.anchored ++ v.anchored ++ anchoredPairs rest
termination_by structural pairs => pairs

end

/-- The node that a node stands for: of several with the number of an alias, the one that begins last. -/
def resolve (table : List (Nat × Node)) : Node → Node
  | .alias anchor => (table.reverse.lookup anchor).getD empty
  | n => n

def text? : Node → Option String
  | .scalar _ _ _ text => some text
  | _ => none

end Node

end PageCoverage.Yaml
