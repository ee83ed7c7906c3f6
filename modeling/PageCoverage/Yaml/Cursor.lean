namespace PageCoverage.Yaml

/-- Whether a character may stand in a stream at all. -/
def isPrintable (c : Char) : Bool :=
  c == '\t' || c == '\n' || c == '\r' || (' ' ≤ c && c ≤ '~') || c == '\u0085' ||
    ('\u00a0' ≤ c && c ≤ '\ufffd') || '\uffff' < c

def isBlank (c : Char) : Bool := c == ' ' || c == '\t'

def isBreak (c : Char) : Bool :=
  c == '\n' || c == '\r' || c == '\u0085' || c == '\u2028' || c == '\u2029'

/-- A character of names: a letter, a digit, a hyphen or an underscore, all ASCII. -/
def isWord (c : Char) : Bool := c.isAlphanum || c == '-' || c == '_'

/-- Whether nothing, or a blank, or the end of the line stands here. -/
def isGap (cs : List Char) : Bool :=
  match cs with
  | [] => true
  | c :: _ => isBlank c || isBreak c

def isLineEnd (cs : List Char) : Bool :=
  match cs with
  | [] => true
  | c :: _ => isBreak c

/-- The number of bytes that a text takes in UTF-8. -/
def byteCount (cs : List Char) : Nat := cs.foldr (fun c n => c.utf8Size + n) 0

/-- The text that is left, and where it begins. -/
structure Cursor where
  rest : List Char
  /-- The number of bytes passed. -/
  index : Nat := 0
  line : Nat := 0
  /-- The number of characters passed in the line. -/
  column : Nat := 0
  deriving Inhabited

namespace Cursor

def forward (c : Cursor) (count : Nat) : Cursor :=
  { c with
    rest := c.rest.drop count
    index := c.index + byteCount (c.rest.take count)
    column := c.column + count }

/-- Pass the characters of a class that contains no line break. -/
def skip (c : Cursor) (p : Char → Bool) : Cursor := c.forward (c.rest.takeWhile p).length

/-- Pass `count` characters that end a line. -/
def nextLine (c : Cursor) (count : Nat) : Cursor :=
  { rest := c.rest.drop count
    index := c.index + byteCount (c.rest.take count)
    line := c.line + 1
    column := 0 }

/-- Pass a byte order mark at the beginning of a line. It takes a column. -/
def skipOrderMark (c : Cursor) : Cursor :=
  if c.column = 0 ∧ c.rest.head? = some '\ufeff' then c.forward 1 else c

/-- Pass a line break. A carriage return with a line feed is one break; all breaks of ASCII and the
next-line character read as a line feed. -/
def lineBreak? (c : Cursor) : Option (Char × Cursor) :=
  match c.rest with
  | '\r' :: '\n' :: _ => some ('\n', c.nextLine 2)
  | '\r' :: _ | '\n' :: _ | '\u0085' :: _ => some ('\n', c.nextLine 1)
  | '\u2028' :: _ => some ('\u2028', c.nextLine 1)
  | '\u2029' :: _ => some ('\u2029', c.nextLine 1)
  | _ => none

/-- Pass the blanks and the comment in front of a line's end. -/
def skipToLineEnd (c : Cursor) : Cursor :=
  let c := c.skip isBlank
  match c.rest with
  | '#' :: _ => c.skip fun x => !isBreak x
  | _ => c

/-- Whether a line begins here with three times the given mark, and a gap behind. -/
def atMarker (c : Cursor) (mark : Char) : Bool :=
  match c.rest with
  | x :: y :: z :: rest => c.column == 0 && x == mark && y == mark && z == mark && isGap rest
  | _ => false

/-- Whether a line begins here that starts or ends a document. -/
def atDocumentMarker (c : Cursor) : Bool := c.atMarker '-' || c.atMarker '.'

end Cursor

end PageCoverage.Yaml
