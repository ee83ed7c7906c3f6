import PageCoverage.Yaml.Label
import PageCoverage.Yaml.Scalar.Block
import PageCoverage.Yaml.Scalar.Plain
import PageCoverage.Yaml.Scalar.Quoted

namespace PageCoverage.Yaml

/-- Something that becomes a key if a colon follows. -/
structure PossibleKey where
  /-- The number of tokens in front of it. -/
  position : Nat
  index : Nat
  line : Nat
  column : Nat
  /-- Whether nothing else may stand there. -/
  required : Bool

/-- How far a text has been read. -/
structure Layout where
  cursor : Cursor
  /-- The tokens so far, the latest first. -/
  tokens : List Token := []
  /-- The columns of the open blocks, the innermost first. -/
  columns : List Nat := []
  /-- The possible key of the innermost flow collection, or of the blocks. -/
  candidate : Option PossibleKey := none
  /-- The possible keys outside each open flow collection, the innermost first. -/
  outer : List (Option PossibleKey) := []
  /-- Whether a key may begin here. -/
  keyAllowed : Bool := true

namespace Layout

def inFlow (l : Layout) : Bool := !l.outer.isEmpty

/-- The first column of content that belongs to the innermost block. -/
def margin (l : Layout) : Nat := l.columns.head?.elim 0 (· + 1)

def emit (l : Layout) (t : Token) : Layout := { l with tokens := t :: l.tokens }

/-- Put a token behind the first `position` ones. -/
def emitAt (l : Layout) (position : Nat) (t : Token) : Layout :=
  { l with tokens := l.tokens.insertIdx (l.tokens.length - position) t }

/-- Close the blocks that are indented deeper than the column. -/
def closeBlocks (l : Layout) (column : Nat) : Layout :=
  if l.inFlow then l
  else
    let deeper := l.columns.takeWhile (column < ·)
    { l with
      columns := l.columns.drop deeper.length
      tokens := List.replicate deeper.length .blockEnd ++ l.tokens }

def closeAll (l : Layout) : Layout :=
  if l.inFlow then l
  else { l with columns := [], tokens := List.replicate l.columns.length .blockEnd ++ l.tokens }

/-- Open a block at a column that is deeper than the innermost block's, in front of the token at the
position. -/
def openBlock (l : Layout) (column position : Nat) (t : Token) : Layout :=
  if l.inFlow || l.columns.head?.any (column ≤ ·) then l
  else { l.emitAt position t with columns := column :: l.columns }

/-- Forget the possible key, unless it is required. -/
def dropCandidate (l : Layout) : Option Layout :=
  if l.candidate.any (·.required) then none else some { l with candidate := none }

/-- What begins here becomes a possible key, where keys are allowed. -/
def saveCandidate (l : Layout) : Option Layout :=
  if l.keyAllowed then do
    let c := l.cursor
    let l ← l.dropCandidate
    some { l with
      candidate := some
        ⟨l.tokens.length, c.index, c.line, c.column, !l.inFlow && l.columns.head? == some c.column⟩ }
  else some l

/-- A possible key ends with its line and takes at most 1024 bytes. -/
def checkCandidate (c : Cursor) (k : Option PossibleKey) : Option (Option PossibleKey) :=
  match k with
  | none => some none
  | some k =>
    if k.line < c.line ∨ k.index + 1024 < c.index then
      if k.required then none else some none
    else some (some k)

/-- Forget the possible keys that have become too long. -/
def checkCandidates (l : Layout) : Option Layout := do
  let candidate ← checkCandidate l.cursor l.candidate
  let outer ← l.outer.mapM (checkCandidate l.cursor)
  some { l with candidate := candidate, outer := outer }

/--
Pass blanks, comments and line breaks in front of the next token, and a byte order mark in front of each
line; at most `fuel` lines are passed. Tabs may not stand where a key of a block may begin.
-/
def skipGaps : Nat → Layout → Layout
  | 0, l => l
  | fuel + 1, l =>
    let c := l.cursor.skipOrderMark.skip fun x => x == ' ' || (x == '\t' && (l.inFlow || !l.keyAllowed))
    let c := match c.rest with
      | '#' :: _ => c.skip fun x => !isBreak x
      | _ => c
    match c.lineBreak? with
    | some (_, next) => skipGaps fuel { l with cursor := next, keyAllowed := l.keyAllowed || !l.inFlow }
    | none => { l with cursor := c }

/-- Pass a token of `length` characters. -/
def mark (l : Layout) (length : Nat) (t : Token) : Layout :=
  { l.emit t with cursor := l.cursor.forward length }

/-- Read a directive, or the mark of a document's start or end: all blocks end there. -/
def outside (l : Layout) : Option Layout := do
  let l ← l.closeAll.dropCandidate
  some { l with keyAllowed := false }

def openFlow (l : Layout) (t : Token) : Option Layout := do
  let l ← l.saveCandidate
  some { l.mark 1 t with candidate := none, outer := l.candidate :: l.outer, keyAllowed := true }

/-- Close a flow collection, if one is open. -/
def closeFlow (l : Layout) (t : Token) : Option Layout := do
  let l ← l.dropCandidate
  let l := match l.outer with
    | [] => l
    | k :: outer => { l with candidate := k, outer := outer }
  some { l.mark 1 t with keyAllowed := false }

def flowEntry (l : Layout) : Option Layout := do
  let l ← l.dropCandidate
  some { l.mark 1 .flowEntry with keyAllowed := true }

/-- Open a block here, if one has to be opened for what comes; there has to be room for it. -/
def openHere (l : Layout) (t : Token) : Option Layout :=
  if l.inFlow then some l
  else if l.keyAllowed then some (l.openBlock l.cursor.column l.tokens.length t)
  else none

def blockEntry (l : Layout) : Option Layout := do
  let l ← (← l.openHere .blockSequenceStart).dropCandidate
  some { l.mark 1 .blockEntry with keyAllowed := true }

def explicitKey (l : Layout) : Option Layout := do
  let l ← (← l.openHere .blockMappingStart).dropCandidate
  some { l.mark 1 .key with keyAllowed := !l.inFlow }

/-- Read the colon behind a key, which may turn out to be one only now. -/
def value (l : Layout) : Option Layout :=
  match l.candidate with
  | some k =>
    let l := (l.emitAt k.position .key).openBlock k.column k.position .blockMappingStart
    some { l.mark 1 .value with candidate := none, keyAllowed := false }
  | none => do
    let l ← l.openHere .blockMappingStart
    some { l.mark 1 .value with keyAllowed := !l.inFlow }

/-- Read something that may be a key, given what it is and where it ends. -/
def content (l : Layout) (read : Option (Token × Cursor)) : Option Layout := do
  let (t, c) ← read
  let l ← l.saveCandidate
  some { l.emit t with cursor := c, keyAllowed := false }

/-- Read a block scalar, which cannot be a key. -/
def blockScalar (l : Layout) (style : ScalarStyle) : Option Layout := do
  let (text, c) ← l.cursor.block? (style == .folded) l.columns.head?
  let l ← l.dropCandidate
  some { l.emit (.scalar style (String.ofList text)) with cursor := c, keyAllowed := true }

def quotedScalar (l : Layout) (style : ScalarStyle) : Option Layout :=
  l.content ((l.cursor.quoted? style).map fun (text, c) => (.scalar style (String.ofList text), c))

/-- Read a scalar without quotes. Where it ends behind a line's end, a key may begin. -/
def plainScalar (l : Layout) : Option Layout := do
  let p ← l.cursor.plain? l.inFlow l.margin
  let l ← l.content (some (.scalar .plain (String.ofList p.text), p.after))
  some { l with keyAllowed := p.broken }

/-- Whether a character begins a token of its own, or none at all. -/
def isReserved (c : Char) : Bool := "-?:,[]\x7b\x7d#&*!|>'\"%@`".toList.contains c

/-- Whether a plain scalar begins here. -/
def atPlain (l : Layout) : Bool :=
  match l.cursor.rest with
  | [] => false
  | c :: rest =>
    !(isBlank c || isBreak c || isReserved c) || (c == '-' && !rest.head?.any isBlank) ||
      (!l.inFlow && (c == '?' || c == ':') && !isGap rest)

/-- Read the token that begins here. -/
def token? (l : Layout) : Option Layout :=
  let c := l.cursor
  if c.column = 0 ∧ c.rest.head? = some '%' then do
    let l ← l.outside
    let (t, c) ← l.cursor.directive?
    some { l.emit t with cursor := c }
  else if c.atMarker '-' then l.outside.map (·.mark 3 .documentStart)
  else if c.atMarker '.' then l.outside.map (·.mark 3 .documentEnd)
  else
    let plain := if l.atPlain then l.plainScalar else none
    match c.rest with
    | '[' :: _ => l.openFlow .flowSequenceStart
    | '\x7b' :: _ => l.openFlow .flowMappingStart
    | ']' :: _ => l.closeFlow .flowSequenceEnd
    | '\x7d' :: _ => l.closeFlow .flowMappingEnd
    | ',' :: _ => l.flowEntry
    | '-' :: rest => if isGap rest then l.blockEntry else plain
    | '?' :: rest => if l.inFlow || isGap rest then l.explicitKey else plain
    | ':' :: rest => if l.inFlow || isGap rest then l.value else plain
    | '*' :: _ => l.content (c.name?.map fun (name, c) => (.alias name, c))
    | '&' :: _ => l.content (c.name?.map fun (name, c) => (.anchor name, c))
    | '!' :: _ => l.content (c.tag? l.inFlow)
    | '|' :: _ => if l.inFlow then none else l.blockScalar .literal
    | '>' :: _ => if l.inFlow then none else l.blockScalar .folded
    | '\'' :: _ => l.quotedScalar .singleQuoted
    | '"' :: _ => l.quotedScalar .doubleQuoted
    | _ => plain

/-- The end of the text: the blocks that are open end with it. -/
def finish (l : Layout) : Option (List Token) := (l.closeAll.dropCandidate).map fun l => l.tokens.reverse

/-- Read at most `fuel` tokens up to the end of the text. -/
def run : Nat → Layout → Option (List Token)
  | 0, _ => none
  | fuel + 1, l => do
    let l ← (l.skipGaps (l.cursor.rest.length + 1)).checkCandidates
    let l := l.closeBlocks l.cursor.column
    if l.cursor.rest.isEmpty then l.finish else run fuel (← l.token?)

end Layout

/-- The tokens of a text, in which every token has a character of its own except block starts and ends,
and keys that a colon shows. -/
def tokens? (text : String) : Option (List Token) :=
  let cs := text.toList
  if cs.all isPrintable then Layout.run (cs.length + 1) { cursor := { rest := cs } } else none

end PageCoverage.Yaml
