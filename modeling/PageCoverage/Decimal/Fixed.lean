import PageCoverage.Decimal.Binary

namespace PageCoverage

/-- The tenths of a double's absolute value, rounded to the nearest; a tie goes to the even one. -/
def Binary.tenths (b : Binary) : Nat :=
  roundDiv (b.ratio.1 * 10) b.ratio.2

/-- The text of a finite double with one digit after the point. -/
def oneDecimal (x : Float) : String :=
  let b := Binary.ofFloat x
  (if b.negative then "-" else "") ++ toString (b.tenths / 10) ++ "." ++ toString (b.tenths % 10)

end PageCoverage
