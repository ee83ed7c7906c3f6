import PageCoverage.Yaml.Scalar.Gap

namespace PageCoverage.Yaml

/-- What becomes of the line breaks at the end of a block scalar. -/
inductive Chomping where
  | strip
  | clip
  | keep
  deriving DecidableEq, Repr

/-- The indicators in the first line of a block scalar. -/
structure BlockHeader where
  chomping : Chomping := .clip
  /-- The number of columns by which the lines are indented; if not given, the first line decides. -/
  indentation : Option Nat := none
  length : Nat := 0

/-- The chomping that a character asks for. -/
def chomping? : Char → Option Chomping
  | '+' => some .keep
  | '-' => some .strip
  | _ => none

/-- The indentation that a digit asks for. Zero is none. -/
def indentation? (c : Char) : Option Nat :=
  if '1' ≤ c ∧ c ≤ '9' then some (c.toNat - '0'.toNat) else none

/-- The indicators at the front, at most one of a kind, in either order. -/
def blockHeader : List Char → BlockHeader
  | [] => {}
  | c :: rest =>
    match chomping? c, indentation? c with
    | some ch, _ =>
      match rest.head?.bind indentation? with
      | some n => ⟨ch, some n, 2⟩
      | none => ⟨ch, none, 1⟩
    | none, some n =>
      match rest.head?.bind chomping? with
      | some ch => ⟨ch, some n, 2⟩
      | none => ⟨.clip, some n, 1⟩
    | none, none => {}

namespace Cursor

/--
The line breaks in front of the next line of content, at most `fuel`, and the deepest column that one of
the passed lines begins at. Spaces are passed up to the column `limit`; a tab there is refused.
-/
def blockBreaks? (limit : Option Nat) : Nat → Cursor → Option (List Char × Nat × Cursor)
  | 0, _ => none
  | fuel + 1, c =>
    let spaces := (c.rest.takeWhile (· == ' ')).length
    let c := c.forward (limit.elim spaces fun n => min spaces (n - c.column))
    if c.rest.head? == some '\t' && limit.all (c.column < ·) then none
    else
      match c.lineBreak? with
      | none => some ([], c.column, c)
      | some (b, next) =>
        (blockBreaks? limit fuel next).map fun (bs, deepest, after) => (b :: bs, max deepest c.column, after)

/--
The lines of content from here on, at most `fuel`. `breaks` are the line breaks in front of the first, the
one that ended the line before first; `wide` tells that the line before began with a blank.
-/
def blockLines? (fold : Bool) (margin : Nat) (chomping : Chomping) :
    Nat → (lead : Option Char) → (breaks : List Char) → (wide : Bool) → Cursor →
      Option (List Char × Cursor)
  | 0, _, _, _, _ => none
  | fuel + 1, lead, breaks, wide, c =>
    if c.column = margin ∧ c.rest ≠ [] then do
      let blank := c.rest.head?.any isBlank
      let gap :=
        if fold && lead == some '\n' && !wide && !blank then (if breaks.isEmpty then [' '] else breaks)
        else lead.toList ++ breaks
      let line := c.rest.takeWhile fun x => !isBreak x
      let c := c.forward line.length
      let (lead, c) := match c.lineBreak? with
        | some (b, next) => (some b, next)
        | none => (none, c)
      let (breaks, _, c) ← c.blockBreaks? (some margin) (c.rest.length + 1)
      let (text, c) ← blockLines? fold margin chomping fuel lead breaks blank c
      some (gap ++ line ++ text, c)
    else
      match chomping with
      | .strip => some ([], c)
      | .clip => some (lead.toList, c)
      | .keep => some (lead.toList ++ breaks, c)

/-- The block scalar whose indicator stands here, below content that is indented by `parent` columns, if
it is indented at all. -/
def block? (fold : Bool) (parent : Option Nat) (c : Cursor) : Option (List Char × Cursor) := do
  let c := c.forward 1
  let header := blockHeader c.rest
  let c := (c.forward header.length).skipToLineEnd
  if !isLineEnd c.rest then none
  let c := (c.lineBreak?).elim c Prod.snd
  let limit := header.indentation.map (parent.getD 0 + ·)
  let (breaks, deepest, c) ← c.blockBreaks? limit (c.rest.length + 1)
  let margin := limit.getD (max deepest (max (parent.elim 0 (· + 1)) 1))
  c.blockLines? fold margin header.chomping (c.rest.length + 1) none breaks false

end Cursor

end PageCoverage.Yaml
