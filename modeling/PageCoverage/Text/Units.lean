namespace PageCoverage.Text

/-- The UTF-16 code units of a character: itself, or a surrogate pair. -/
def unitsOf (c : Char) : List Nat :=
  if c.toNat < 0x10000 then [c.toNat]
  else [0xD800 + (c.toNat - 0x10000) / 0x400, 0xDC00 + (c.toNat - 0x10000) % 0x400]

/-- The UTF-16 encoding of a text. -/
def utf16 (cs : List Char) : List Nat := cs.flatMap unitsOf

/-- The number of code units a character takes. -/
def width (c : Char) : Nat := (unitsOf c).length

/-- The number of code units of a text. -/
def units (cs : List Char) : Nat := cs.foldr (fun c n => width c + n) 0

/-- Split a text after `n` code units; there is no split inside a surrogate pair or past the end. -/
def splitAt : Nat → List Char → Option (List Char × List Char)
  | 0, cs => some ([], cs)
  | _ + 1, [] => none
  | n + 1, c :: cs =>
    if width c ≤ n + 1 then (splitAt (n + 1 - width c) cs).map fun p => (c :: p.1, p.2) else none
termination_by structural _ cs => cs

/-- The part of a text from one unit offset up to another. -/
def slice (cs : List Char) (start stop : Nat) : Option (List Char) :=
  if start ≤ stop then do
    let (_, tail) ← splitAt start cs
    let (piece, _) ← splitAt (stop - start) tail
    some piece
  else none

end PageCoverage.Text
