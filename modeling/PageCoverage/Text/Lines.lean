namespace PageCoverage.Text

/-- The pieces of a text between line feeds. -/
def segments : List Char → List (List Char)
  | [] => [[]]
  | c :: rest =>
    if c = '\n' then [] :: segments rest
    else
      match segments rest with
      | [] => [[c]]
      | piece :: more => (c :: piece) :: more

/-- A line without a carriage return at its end. -/
def dropReturn (line : List Char) : List Char :=
  if line.getLast? = some '\r' then line.dropLast else line

/-- The lines of a text. A line ends at a line feed, with or without a carriage return before it; what
stands behind the last line feed is a line only if it is not empty. -/
def lines (cs : List Char) : List (List Char) :=
  (segments cs).dropLast.map dropReturn ++ (segments cs).getLast?.toList.filter (· ≠ [])

end PageCoverage.Text
