import PageCoverage.Json.Written
import PageCoverage.Text.Hex

namespace PageCoverage.Json

inductive Token where
  | beginList
  | endList
  | beginObject
  | endObject
  | comma
  | colon
  /-- A literal name, a number or a string. -/
  | atom (w : Written)

/-- The character behind a backslash, for the escapes of one letter. -/
def shortEscape? : Char → Option Char
  | '"' => some '"'
  | '\\' => some '\\'
  | '/' => some '/'
  | 'b' => some '\x08'
  | 'f' => some '\x0c'
  | 'n' => some '\n'
  | 'r' => some '\r'
  | 't' => some '\t'
  | _ => none

/-- Put a 16-bit unit in front of a string. Two halves make one character. -/
def unitBefore (n : Nat) (s : List Letter) : List Letter :=
  if n < 0xD800 ∨ 0xDFFF < n then .char (Char.ofNat n) :: s
  else
    match s with
    | .half m :: rest =>
      if n < 0xDC00 ∧ 0xDC00 ≤ m then .char (Char.ofNat (0x10000 + (n - 0xD800) * 0x400 + (m - 0xDC00))) :: rest
      else .half n :: s
    | s => .half n :: s

/-- The letters of a string up to its closing quote, and the text behind it. A control character has to be
escaped. -/
def stringBody : List Char → Option (List Letter × List Char)
  | [] => none
  | '"' :: rest => some ([], rest)
  | '\\' :: 'u' :: a :: b :: c :: d :: rest => do
    let n ← Text.hexNumber? [a, b, c, d]
    let (s, rest) ← stringBody rest
    some (unitBefore n s, rest)
  | '\\' :: e :: rest => do
    let c ← shortEscape? e
    let (s, rest) ← stringBody rest
    some (.char c :: s, rest)
  | c :: rest => do
    if c.toNat < 0x20 ∨ c = '\\' then none
    else
      let (s, rest) ← stringBody rest
      some (.char c :: s, rest)

/-- The exponent part of a number; there may be none. -/
def exponent? : List Char → Option (Option Int)
  | [] => some none
  | e :: rest =>
    if e = 'e' ∨ e = 'E' then
      let (negative, ds) := match rest with
        | '-' :: ds => (true, ds)
        | '+' :: ds => (false, ds)
        | ds => (false, ds)
      if ds ≠ [] ∧ ds.all Char.isDigit then
        some (some (if negative then -(digitsValue ds : Int) else digitsValue ds))
      else none
    else none

/-- The fraction digits of a number and what stands behind them; there may be none. -/
def fraction? : List Char → Option (Option (List Char) × List Char)
  | '.' :: rest =>
    let ds := rest.takeWhile Char.isDigit
    if ds = [] then none else some (some ds, rest.dropWhile Char.isDigit)
  | rest => some (none, rest)

/-- The number that characters write. It has no leading zeros. -/
def numeral? (cs : List Char) : Option Numeral := do
  let (negative, cs) := match cs with
    | '-' :: rest => (true, rest)
    | cs => (false, cs)
  let whole := cs.takeWhile Char.isDigit
  if whole = [] ∨ (whole.head? = some '0' ∧ 1 < whole.length) then none
  else
    let (fraction, rest) ← fraction? (cs.dropWhile Char.isDigit)
    let exponent ← exponent? rest
    some ⟨negative, whole, fraction, exponent⟩

/-- Whether a character can stand in a number. -/
def isNumberChar (c : Char) : Bool :=
  c.isDigit || c == '-' || c == '+' || c == '.' || c == 'e' || c == 'E'

/-- The first token of a text that does not start with a blank, and the text behind it. -/
def token? : List Char → Option (Token × List Char)
  | [] => none
  | '[' :: rest => some (.beginList, rest)
  | ']' :: rest => some (.endList, rest)
  | '\x7b' :: rest => some (.beginObject, rest)
  | '\x7d' :: rest => some (.endObject, rest)
  | ',' :: rest => some (.comma, rest)
  | ':' :: rest => some (.colon, rest)
  | '"' :: rest => (stringBody rest).map fun p => (.atom (.text p.1), p.2)
  | 'n' :: 'u' :: 'l' :: 'l' :: rest => some (.atom .null, rest)
  | 't' :: 'r' :: 'u' :: 'e' :: rest => some (.atom (.bool true), rest)
  | 'f' :: 'a' :: 'l' :: 's' :: 'e' :: rest => some (.atom (.bool false), rest)
  | cs => (numeral? (cs.takeWhile isNumberChar)).map fun n => (.atom (.number n), cs.dropWhile isNumberChar)

/-- Whether a character may stand between tokens. -/
def isBlank (c : Char) : Bool := c == ' ' || c == '\n' || c == '\r' || c == '\t'

/-- The tokens of a text, of at most `fuel` tokens and blanks. -/
def tokensWithin : Nat → List Char → Option (List Token)
  | _, [] => some []
  | 0, _ :: _ => none
  | fuel + 1, c :: cs =>
    if isBlank c then tokensWithin fuel cs
    else do
      let (t, rest) ← token? (c :: cs)
      let ts ← tokensWithin fuel rest
      some (t :: ts)

/-- The tokens of a text. Every token takes a character, so the text's length bounds their number. -/
def tokens? (cs : List Char) : Option (List Token) := tokensWithin cs.length cs

end PageCoverage.Json
