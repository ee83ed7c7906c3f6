import PageCoverage.Yaml.Node

namespace PageCoverage.Yaml

/-- What is known while tokens are read. -/
structure Composing where
  rest : List Token
  /-- The meanings of tag handles; the first one counts. -/
  handles : List (String × String) := [("!", "!"), ("!!", "tag:yaml.org,2002:")]
  /-- The names of anchors with their numbers, the latest first. -/
  anchors : List (String × Nat) := []

/-- Reading tokens, which may fail. -/
abbrev Compose := StateT Composing Option

namespace Compose

/-- The next token, which stays where it is. -/
def next : Compose (Option Token) := do return (← get).rest.head?

def pass : Compose Unit := modify fun s => { s with rest := s.rest.tail }

def passIf (t : Token) : Compose Bool := do
  if (← next) == some t then
    pass
    return true
  else return false

/-- Give an anchor its number: how many different names have been anchored before it. -/
def number (name : String) : Compose Nat := do
  let s ← get
  let n := (s.anchors.map Prod.fst).eraseDups.length
  set { s with anchors := (name, n) :: s.anchors }
  return n

def numberOf (name : String) : Compose Nat := do (← get).anchors.lookup name

/-- The anchor that stands here, if one does. -/
def anchor? : Compose (Option Nat) := do
  match ← next with
  | some (.anchor name) =>
    pass
    return some (← number name)
  | _ => return none

/-- The tag that stands here, if one does. Its handle has to be known. -/
def tag? : Compose (Option String) := do
  match ← next with
  | some (.tag handle suffix) =>
    pass
    if handle.isEmpty then return some suffix
    else
      let stem ← (← get).handles.lookup handle
      return some (stem ++ suffix)
  | _ => return none

/-- The anchor and the tag of a node, in either order. -/
def properties : Compose (Option Nat × Option String) := do
  match ← anchor? with
  | some a => return (some a, ← tag?)
  | none =>
    let tag ← tag?
    match tag with
    | some _ => return (← anchor?, tag)
    | none => return (none, none)

/-- A scalar; the tag of one exclamation mark counts for nothing on it. -/
def scalar (anchor : Option Nat) (tag : Option String) (style : ScalarStyle) (text : String) : Node :=
  .scalar anchor (tag.filter (· != "!")) style text

/-- Whether a node without content stands in front of the next token. -/
def atEnd (ends : List Token) : Compose Bool := do
  match ← next with
  | some t => return ends.contains t
  | none => return false

mutual

/--
A node. `block` tells whether it may be a block collection, `level` whether the entries of a block
sequence may stand at the column of the mapping they belong to. Every call of these definitions has at most
`fuel` calls below it.
-/
def node (fuel : Nat) (block level : Bool) : Compose Node :=
  match fuel with
  | 0 => failure
  | fuel + 1 => do
    if let some (.alias name) ← next then
      pass
      return .alias (← numberOf name)
    let (anchor, tag) ← properties
    let t ← next
    match t with
    | some (.scalar style text) =>
      pass
      return scalar anchor tag style text
    | some .flowSequenceStart =>
      pass
      return .sequence anchor (← flowItems fuel true)
    | some .flowMappingStart =>
      pass
      return .mapping anchor (← flowPairs fuel true)
    | _ =>
      if level && t == some .blockEntry then return .sequence anchor (← levelItems fuel)
      else if block && t == some .blockSequenceStart then
        pass
        return .sequence anchor (← blockItems fuel)
      else if block && t == some .blockMappingStart then
        pass
        return .mapping anchor (← blockPairs fuel)
      else if anchor.isSome || tag.isSome then return scalar anchor tag .plain ""
      else failure
termination_by structural fuel

/-- A node, or the empty one where one of the tokens `ends` follows at once. -/
def nodeOrEmpty (fuel : Nat) (block level : Bool) (ends : List Token) : Compose Node :=
  match fuel with
  | 0 => failure
  | fuel + 1 => do if ← atEnd ends then return .empty else node fuel block level
termination_by structural fuel

def blockItems (fuel : Nat) : Compose (List Node) :=
  match fuel with
  | 0 => failure
  | fuel + 1 => do
    if ← passIf .blockEnd then return []
    if !(← passIf .blockEntry) then failure
    let item ← nodeOrEmpty fuel true false [.blockEntry, .blockEnd]
    return item :: (← blockItems fuel)
termination_by structural fuel

/-- The items of a block sequence at the column of its mapping. -/
def levelItems (fuel : Nat) : Compose (List Node) :=
  match fuel with
  | 0 => failure
  | fuel + 1 => do
    if !(← passIf .blockEntry) then return []
    let item ← nodeOrEmpty fuel true false [.blockEntry, .key, .value, .blockEnd]
    return item :: (← levelItems fuel)
termination_by structural fuel

def blockPairs (fuel : Nat) : Compose (List (Node × Node)) :=
  match fuel with
  | 0 => failure
  | fuel + 1 => do
    if ← passIf .blockEnd then return []
    if !(← passIf .key) then failure
    let key ← nodeOrEmpty fuel true true [.key, .value, .blockEnd]
    let value ←
      if ← passIf .value then nodeOrEmpty fuel true true [.key, .value, .blockEnd] else pure .empty
    return (key, value) :: (← blockPairs fuel)
termination_by structural fuel

/-- The items of a flow sequence, and its end. A pair stands for a mapping of its own. -/
def flowItems (fuel : Nat) (first : Bool) : Compose (List Node) :=
  match fuel with
  | 0 => failure
  | fuel + 1 => do
    if ← passIf .flowSequenceEnd then return []
    if !first then
      if !(← passIf .flowEntry) then failure
    if ← passIf .flowSequenceEnd then return []
    let item ←
      if ← passIf .key then pure (.mapping none [← flowPair fuel]) else node fuel false false
    return item :: (← flowItems fuel false)
termination_by structural fuel

/-- The pair that is an item of a flow sequence. Where it has no key, the token in the key's place is
passed. -/
def flowPair (fuel : Nat) : Compose (Node × Node) :=
  match fuel with
  | 0 => failure
  | fuel + 1 => do
    let key ←
      if ← atEnd [.value, .flowEntry, .flowSequenceEnd] then
        pass
        pure .empty
      else node fuel false false
    let value ←
      if ← passIf .value then nodeOrEmpty fuel false false [.flowEntry, .flowSequenceEnd] else pure .empty
    return (key, value)
termination_by structural fuel

/-- The pairs of a flow mapping, and its end. A node alone is a key without a value. -/
def flowPairs (fuel : Nat) (first : Bool) : Compose (List (Node × Node)) :=
  match fuel with
  | 0 => failure
  | fuel + 1 => do
    if ← passIf .flowMappingEnd then return []
    if !first then
      if !(← passIf .flowEntry) then failure
    if ← passIf .flowMappingEnd then return []
    if ← passIf .key then
      let key ← nodeOrEmpty fuel false false [.value, .flowEntry, .flowMappingEnd]
      let value ←
        if ← passIf .value then nodeOrEmpty fuel false false [.flowEntry, .flowMappingEnd] else pure .empty
      return (key, value) :: (← flowPairs fuel false)
    else
      let key ← node fuel false false
      return (key, .empty) :: (← flowPairs fuel false)
termination_by structural fuel

end

end Compose

/-- The version and the handles that directives give: each at most once, and the version known. -/
structure Directives where
  version : Option (Nat × Nat) := none
  handles : List (String × String) := []

/-- Read directives in front of a document. -/
def Directives.read? (d : Directives) : List Token → Option (Directives × List Token)
  | .version major minor :: rest =>
    if d.version.isNone && major == 1 && (minor == 1 || minor == 2) then
      { d with version := some (major, minor) }.read? rest
    else none
  | .handle name stem :: rest =>
    if (d.handles.lookup name).isNone then { d with handles := (name, stem) :: d.handles }.read? rest else none
  | rest => some (d, rest)

/-- Whether a token ends a document that has nothing in it. -/
def Token.endsDocument : Token → Bool
  | .version _ _ | .handle _ _ | .documentStart | .documentEnd => true
  | _ => false

/--
The root of the only document in a stream; none where the stream is empty. The document may begin with
directives and a start mark, and end marks may follow it.
-/
def document? (ts : List Token) : Option (Option Node) := do
  if ts.isEmpty then return none
  let (d, rest) ← ({} : Directives).read? ts
  let declared := rest.length < ts.length
  let (marked, rest) ← match rest with
    | .documentStart :: rest => some (true, rest)
    | rest => if declared then none else some (false, rest)
  let start : Composing := { rest := rest }
  let start := { start with handles := d.handles ++ start.handles }
  let (root, s) ←
    if marked && rest.head?.all Token.endsDocument then some (Node.empty, start)
    else Compose.node (2 * rest.length + 2) true false start
  if s.rest.all (· == .documentEnd) then return some root else none

end PageCoverage.Yaml
