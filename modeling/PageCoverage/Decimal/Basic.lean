namespace PageCoverage

/-- The number `digits · 10 ^ power`. -/
structure Decimal where
  digits : Nat
  power : Int
  deriving DecidableEq, Repr

namespace Decimal

/-- Continue a number with digits for as long as it fits a 64-bit word, and give back the others. -/
def fill (n : Nat) : List Char → Nat × List Char
  | [] => (n, [])
  | d :: ds =>
    let m := 10 * n + (d.toNat - '0'.toNat)
    if m ≤ 0xFFFFFFFFFFFFFFFF then fill m ds else (n, d :: ds)

/-- The digits before a point, those behind it, and an exponent. Each part is kept up to the first digit
for which a 64-bit word has no room; digits left over before the point still count as places. -/
def ofDigits (whole fraction : List Char) (exponent : Int) : Decimal :=
  let (n, left) := fill 0 whole
  let (m, dropped) := fill n fraction
  ⟨m, exponent + left.length + dropped.length - fraction.length⟩

end Decimal

end PageCoverage
