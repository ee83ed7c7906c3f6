import PageCoverage.Text.Hex
import PageCoverage.Yaml.Cursor
import PageCoverage.Yaml.Token

namespace PageCoverage.Yaml

/-- A character that a tag may contain. -/
def isTagChar (c : Char) : Bool := isWord c || ";/?:@&=+$.!~*'()%".toList.contains c

/-- A character that a tag in angle brackets or the meaning of a handle may contain. -/
def isWideTagChar (c : Char) : Bool := isTagChar c || c == ',' || c == '[' || c == ']'

/-- The octets that percent signs with two digits write, up to `count` of them. -/
def octets? : Nat → List Char → Option (List Nat × List Char)
  | 0, cs => some ([], cs)
  | count + 1, '%' :: a :: b :: rest => do
    let o ← Text.hexNumber? [a, b]
    let (os, rest) ← octets? count rest
    some (o :: os, rest)
  | _, _ => none

/-- The number of octets of the character that an octet begins. -/
def octetCount? (o : Nat) : Option Nat :=
  if o < 0x80 then some 1
  else if 0xC0 ≤ o ∧ o < 0xE0 then some 2
  else if 0xE0 ≤ o ∧ o < 0xF0 then some 3
  else if 0xF0 ≤ o ∧ o < 0xF8 then some 4
  else none

/-- The least code point that takes the given number of octets. -/
def leastOf : Nat → Nat
  | 2 => 0x80
  | 3 => 0x800
  | 4 => 0x10000
  | _ => 0

/-- The character that octets write, each behind the first one of the form `10xxxxxx`. Octets that
write no character, or write it with more of them than needed, stand for the replacement character. -/
def charOfOctets? (os : List Nat) : Option Char :=
  match os with
  | [] => none
  | o :: more =>
    if more.all fun m => 0x80 ≤ m ∧ m < 0xC0 then
      let first := if more.isEmpty then o else o % (64 >>> more.length)
      let n := more.foldl (fun n m => n * 64 + m % 64) first
      if n < leastOf os.length ∨ (0xD800 ≤ n ∧ n < 0xE000) ∨ 0x10FFFF < n then some '\ufffd'
      else some (Char.ofNat n)
    else none

/-- The text at the front in characters of a class, of which at most `fuel` are read. Percent signs
write characters by their octets. -/
def tagText? (p : Char → Bool) : Nat → List Char → Option (List Char × List Char)
  | 0, cs => some ([], cs)
  | fuel + 1, cs =>
    match cs with
    | '%' :: _ => do
      let (os, _) ← octets? 1 cs
      let count ← os.head?.bind octetCount?
      let (os, rest) ← octets? count cs
      let c ← charOfOctets? os
      let (text, rest) ← tagText? p fuel rest
      some (c :: text, rest)
    | c :: rest =>
      if p c then (tagText? p fuel rest).map fun (text, rest) => (c :: text, rest) else some ([], cs)
    | [] => some ([], [])

/-- The text that a tag keeps: what stands in front of the first null character. -/
def kept (text : List Char) : String := String.ofList (text.takeWhile (· != '\x00'))

/-- The meaning and suffix of the tag that stands at the front, and the text behind it. A handle that
ends in an exclamation mark is kept for its meaning to be looked up. -/
def tagAt? (cs : List Char) : Option (Token × List Char) :=
  match cs with
  | '!' :: '<' :: rest => do
    let (text, rest) ← tagText? isWideTagChar rest.length rest
    match text, rest with
    | _ :: _, '>' :: rest => some (.tag "" (kept text), rest)
    | _, _ => none
  | '!' :: rest =>
    let word := rest.takeWhile isWord
    match rest.drop word.length with
    | '!' :: behind => do
      let (text, rest) ← tagText? isTagChar behind.length behind
      if text.isEmpty then none
      some (.tag (String.ofList ('!' :: word ++ ['!'])) (kept text), rest)
    | behind => do
      let (text, rest) ← tagText? isTagChar behind.length behind
      let suffix := kept (word ++ text)
      some (if suffix.isEmpty then .tag "" "!" else .tag "!" suffix, rest)
  | _ => none

namespace Cursor

/-- Pass what is in front of `rest`, which is an end of the text that is left and of one line. -/
def forwardTo (c : Cursor) (rest : List Char) : Cursor := c.forward (c.rest.length - rest.length)

def name? (c : Cursor) : Option (String × Cursor) :=
  let c := c.forward 1
  let name := c.rest.takeWhile isWord
  let c := c.forward name.length
  if name ≠ [] ∧ (isGap c.rest ∨ c.rest.head?.any fun x => "?:,]\x7d%@`".toList.contains x) then
    some (String.ofList name, c)
  else none

def tag? (flow : Bool) (c : Cursor) : Option (Token × Cursor) := do
  let (t, rest) ← tagAt? c.rest
  if isGap rest || (flow && rest.head? == some ',') then some (t, c.forwardTo rest) else none

/-- A decimal number of at most nine digits. -/
def number? (c : Cursor) : Option (Nat × Cursor) :=
  let ds := c.rest.takeWhile Char.isDigit
  if ds ≠ [] ∧ ds.length ≤ 9 then
    some (ds.foldl (fun n d => 10 * n + (d.toNat - '0'.toNat)) 0, c.forward ds.length)
  else none

/-- The version in a directive. -/
def version? (c : Cursor) : Option (Token × Cursor) := do
  let (major, c) ← c.number?
  if c.rest.head? != some '.' then none
  let (minor, c) ← (c.forward 1).number?
  some (.version major minor, c)

/-- The tag handle and its meaning in a directive. -/
def handle? (c : Cursor) : Option (Token × Cursor) :=
  match c.rest with
  | '!' :: rest => do
    let word := rest.takeWhile isWord
    let (name, behind) ← match rest.drop word.length with
      | '!' :: behind => some ('!' :: word ++ ['!'], behind)
      | behind => if word.isEmpty then some (['!'], behind) else none
    if !behind.head?.any isBlank then none
    let c := (c.forwardTo behind).skip isBlank
    let (text, rest) ← tagText? isWideTagChar c.rest.length c.rest
    if text.isEmpty || !isGap rest then none
    some (.handle (String.ofList name) (kept text), c.forwardTo rest)
  | _ => none

/-- The directive that stands here, up to the next line. -/
def directive? (c : Cursor) : Option (Token × Cursor) := do
  let c := c.forward 1
  let name := c.rest.takeWhile isWord
  let c := c.forward name.length
  if !isGap c.rest then none
  let c := c.skip isBlank
  let (t, c) ←
    if name = "YAML".toList then c.version?
    else if name = "TAG".toList then c.handle?
    else none
  let c := c.skipToLineEnd
  if !isLineEnd c.rest then none
  some (t, (c.lineBreak?).elim c Prod.snd)

end Cursor

end PageCoverage.Yaml
