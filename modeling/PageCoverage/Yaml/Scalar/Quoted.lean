import PageCoverage.Text.Hex
import PageCoverage.Yaml.Scalar.Gap
import PageCoverage.Yaml.Token

namespace PageCoverage.Yaml

/-- The character behind a backslash, for the escapes of one letter. -/
def namedEscape? : Char → Option Char
  | '0' => some '\x00'
  | 'a' => some '\x07'
  | 'b' => some '\x08'
  | 't' | '\t' => some '\t'
  | 'n' => some '\n'
  | 'v' => some '\x0b'
  | 'f' => some '\x0c'
  | 'r' => some '\r'
  | 'e' => some '\x1b'
  | ' ' => some ' '
  | '"' => some '"'
  | '/' => some '/'
  | '\\' => some '\\'
  | 'N' => some '\u0085'
  | '_' => some '\u00a0'
  | 'L' => some '\u2028'
  | 'P' => some '\u2029'
  | _ => none

/-- The number of hexadecimal digits behind an escape that gives a code point. -/
def codeLength? : Char → Option Nat
  | 'x' => some 2
  | 'u' => some 4
  | 'U' => some 8
  | _ => none

/-- The character with a code point; surrogates have none. -/
def charOf? (n : Nat) : Option Char :=
  if n < 0xD800 ∨ (0xDFFF < n ∧ n ≤ 0x10FFFF) then some (Char.ofNat n) else none

/-- The character of the escape behind a backslash, and the length of the escape. -/
def escape? : List Char → Option (Char × Nat)
  | [] => none
  | e :: rest =>
    match codeLength? e with
    | some n =>
      let ds := rest.take n
      if ds.length = n then ((Text.hexNumber? ds).bind charOf?).map (·, n + 1) else none
    | none => (namedEscape? e).map (·, 1)

/-- Where a word of a quoted scalar ends. -/
inductive WordEnd where
  | quote
  /-- A backslash that ends the line. -/
  | continuation
  | gap
  deriving DecidableEq, Repr

/-- A word of a quoted scalar: its text, how it ends, and the number of characters up to there. -/
structure QuotedWord where
  text : List Char
  ending : WordEnd
  length : Nat

/-- A word behind a character that is written with `length` characters. -/
def QuotedWord.cons (c : Char) (length : Nat) (w : QuotedWord) : QuotedWord :=
  { w with text := c :: w.text, length := length + w.length }

/-- The word at the front of a text in single quotes, where two quotes stand for one. -/
def singleQuotedWord : List Char → QuotedWord
  | '\'' :: '\'' :: rest => (singleQuotedWord rest).cons '\'' 2
  | '\'' :: _ => ⟨[], .quote, 0⟩
  | [] => ⟨[], .gap, 0⟩
  | c :: rest => if isGap (c :: rest) then ⟨[], .gap, 0⟩ else (singleQuotedWord rest).cons c 1

/-- The word at the front of a text in double quotes, in at most `fuel` characters. -/
def doubleQuotedWord? : Nat → List Char → Option QuotedWord
  | 0, _ => none
  | fuel + 1, cs =>
    match cs with
    | '"' :: _ => some ⟨[], .quote, 0⟩
    | [] => some ⟨[], .gap, 0⟩
    | '\\' :: rest =>
      if rest.head?.any isBreak then some ⟨[], .continuation, 0⟩
      else do
        let (c, n) ← escape? rest
        let w ← doubleQuotedWord? fuel (rest.drop n)
        some (w.cons c (n + 1))
    | c :: rest =>
      if isGap (c :: rest) then some ⟨[], .gap, 0⟩ else (doubleQuotedWord? fuel rest).map (·.cons c 1)

def quotedWord? (style : ScalarStyle) (cs : List Char) : Option QuotedWord :=
  match style with
  | .singleQuoted => some (singleQuotedWord cs)
  | _ => doubleQuotedWord? (cs.length + 1) cs

namespace Cursor

/-- The text up to the closing quote, of at most `fuel` words. Neither the end of the text nor a
document marker may come first. -/
def quotedTail? (style : ScalarStyle) : Nat → Cursor → Option (List Char × Cursor)
  | 0, _ => none
  | fuel + 1, c => do
    if c.atDocumentMarker then none
    let w ← quotedWord? style c.rest
    let c := c.forward w.length
    match w.ending with
    | .quote => some (w.text, c.forward 1)
    | .continuation =>
      let (_, c) ← (c.forward 1).lineBreak?
      let (breaks, c) ← c.breaks? 0 c.rest.length
      let (text, c) ← quotedTail? style fuel c
      some (w.text ++ breaks ++ text, c)
    | .gap =>
      if c.rest.isEmpty then none
      let gap ← c.gap? 0
      let (text, c) ← quotedTail? style fuel gap.after
      some (w.text ++ gap.text ++ text, c)

def quoted? (style : ScalarStyle) (c : Cursor) : Option (List Char × Cursor) :=
  (c.forward 1).quotedTail? style (c.rest.length + 1)

end Cursor

end PageCoverage.Yaml
