import PageCoverage.Yaml.Cursor

namespace PageCoverage.Yaml

/-- The text of the line breaks between two words: a single break is a space, and the first of several
is dropped. Separators of lines and paragraphs are kept. -/
def foldBreaks : List Char → List Char
  | ['\n'] => [' ']
  | '\n' :: more => more
  | breaks => breaks

/-- A gap that has been passed. -/
structure Gap where
  text : List Char
  /-- Whether the line ended in the gap. -/
  broken : Bool
  after : Cursor

namespace Cursor

/--
The line breaks from here to the next word, blanks left out; at most `fuel` characters are passed. A tab
in front of the column `margin` is refused.
-/
def breaks? (margin : Nat) : Nat → Cursor → Option (List Char × Cursor)
  | 0, c => some ([], c)
  | fuel + 1, c =>
    match c.lineBreak? with
    | some (b, next) => (breaks? margin fuel next).map fun (bs, c) => (b :: bs, c)
    | none =>
      match c.rest with
      | ' ' :: _ => breaks? margin fuel (c.forward 1)
      | '\t' :: _ => if c.column < margin then none else breaks? margin fuel (c.forward 1)
      | _ => some ([], c)

/-- The gap in front of the next word. Blanks count only where the line goes on. -/
def gap? (margin : Nat) (c : Cursor) : Option Gap :=
  let blanks := c.rest.takeWhile isBlank
  let c := c.forward blanks.length
  match c.lineBreak? with
  | none => some ⟨blanks, false, c⟩
  | some (b, next) =>
    (breaks? margin next.rest.length next).map fun (bs, c) => ⟨foldBreaks (b :: bs), true, c⟩

end Cursor

end PageCoverage.Yaml
