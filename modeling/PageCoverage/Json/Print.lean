import PageCoverage.Json.Value
import PageCoverage.Decimal.Shortest
import PageCoverage.Text.Quoted

namespace PageCoverage.Json

/-- A character of a string. Controls are escaped, other characters stand for themselves. -/
def escape (c : Char) : List Char :=
  match c with
  | '"' => ['\\', '"']
  | '\\' => ['\\', '\\']
  | '\x08' => ['\\', 'b']
  | '\x0c' => ['\\', 'f']
  | '\n' => ['\\', 'n']
  | '\r' => ['\\', 'r']
  | '\t' => ['\\', 't']
  | c =>
    if c.toNat < 0x20 then ['\\', 'u', '0', '0'] ++ (if c.toNat < 0x10 then ['0'] else []) ++ Text.hex c.toNat
    else [c]

def quote (s : String) : String :=
  String.ofList ('"' :: s.toList.flatMap escape ++ ['"'])

/-- A value without containers. -/
def scalar : Value → String
  | .bool true => "true"
  | .bool false => "false"
  | .int n => toString n
  | .float x => shortestText x
  | .text s => quote s
  | _ => "null"

mutual

/-- A value on one line without blanks. -/
def compact : Value → String
  | .list items => "[" ++ compactItems items ++ "]"
  | .object ms => "\x7b" ++ compactMembers ms ++ "\x7d"
  | v => scalar v
termination_by structural v => v

def compactItems : List Value → String
  | [] => ""
  | [v] => compact v
  | v :: w :: rest => compact v ++ "," ++ compactItems (w :: rest)
termination_by structural items => items

def compactMembers : List (String × Value) → String
  | [] => ""
  | [(k, v)] => quote k ++ ":" ++ compact v
  | (k, v) :: m :: rest => quote k ++ ":" ++ compact v ++ "," ++ compactMembers (m :: rest)
termination_by structural ms => ms

end

def newline (level : Nat) : String := String.ofList ('\n' :: List.replicate (2 * level) ' ')

mutual

/-- A value with a line for each item and member, indented by two blanks a level. -/
def pretty (level : Nat) : Value → String
  | .list [] => "[]"
  | .list (v :: rest) => "[" ++ prettyItems (level + 1) (v :: rest) ++ newline level ++ "]"
  | .object [] => "\x7b\x7d"
  | .object (m :: rest) => "\x7b" ++ prettyMembers (level + 1) (m :: rest) ++ newline level ++ "\x7d"
  | v => scalar v
termination_by structural v => v

def prettyItems (level : Nat) : List Value → String
  | [] => ""
  | [v] => newline level ++ pretty level v
  | v :: w :: rest => newline level ++ pretty level v ++ "," ++ prettyItems level (w :: rest)
termination_by structural items => items

def prettyMembers (level : Nat) : List (String × Value) → String
  | [] => ""
  | [(k, v)] => newline level ++ quote k ++ ": " ++ pretty level v
  | (k, v) :: m :: rest =>
    newline level ++ quote k ++ ": " ++ pretty level v ++ "," ++ prettyMembers level (m :: rest)
termination_by structural ms => ms

end

end PageCoverage.Json
