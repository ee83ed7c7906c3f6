import PageCoverage.Yaml.Scalar.Gap

namespace PageCoverage.Yaml

/-- A character that belongs to the structure of flow collections. -/
def isFlowMark (c : Char) : Bool := c == ',' || c == '[' || c == ']' || c == '\x7b' || c == '\x7d'

/-- The word that stands at the front. It ends at a gap, at a colon in front of one, and in a flow
collection at the marks of that; a colon right in front of such a mark is refused there. -/
def plainWord? (flow : Bool) : List Char → Option (List Char)
  | [] => some []
  | c :: rest =>
    if isBlank c || isBreak c then some []
    else if flow && c == ':' && rest.head?.any (fun d => isFlowMark d || d == '?') then none
    else if c == ':' && isGap rest then some []
    else if flow && isFlowMark c then some []
    else (plainWord? flow rest).map (c :: ·)

/-- A scalar without quotes, or the end of one. -/
structure PlainScalar where
  text : List Char
  /-- Whether a line has ended behind the last word. -/
  broken : Bool
  after : Cursor

namespace Cursor

/--
The words from here on, at most `fuel`, each behind its gap. The scalar ends in front of a comment, a
document marker, or, outside flow collections, a column before `margin`.
-/
def plainTail? (flow : Bool) (margin : Nat) : Nat → Cursor → Option PlainScalar
  | 0, _ => none
  | fuel + 1, c =>
    if !isGap c.rest || c.rest.isEmpty then some ⟨[], false, c⟩
    else do
      let gap ← c.gap? margin
      let c := gap.after
      let ending : PlainScalar := ⟨[], gap.broken, c⟩
      if (!flow && c.column < margin) || c.atDocumentMarker || c.rest.head? == some '#' then some ending
      else
        let word ← plainWord? flow c.rest
        if word.isEmpty then some ending
        else
          let more ← plainTail? flow margin fuel (c.forward word.length)
          some { more with text := gap.text ++ word ++ more.text }

def plain? (flow : Bool) (margin : Nat) (c : Cursor) : Option PlainScalar := do
  let word ← plainWord? flow c.rest
  let more ← c.forward word.length |>.plainTail? flow margin (c.rest.length + 1)
  some { more with text := word ++ more.text }

end Cursor

end PageCoverage.Yaml
