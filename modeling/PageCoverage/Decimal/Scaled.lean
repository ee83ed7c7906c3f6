import PageCoverage.Decimal.Basic

namespace PageCoverage.Decimal

/-- The double nearest to `10 ^ k`. -/
def powerOfTen (k : Nat) : Float := Float.ofScientific 1 false k

/-- A positive double divided by `10 ^ k`. No double holds more than `10 ^ 308`, so further places take a
second division, and two such leave nothing of a 64-bit word. -/
def divided (x : Float) (k : Nat) : Float :=
  if k ≤ 308 then x / powerOfTen k
  else if k ≤ 616 then x / powerOfTen 308 / powerOfTen (k - 308)
  else 0

/--
The double of a decimal whose digits fit a 64-bit word, unless it is too large for one. Each step rounds,
so that the result may be a neighbour of the double that is nearest to the decimal.
-/
def toFloat? (d : Decimal) : Option Float :=
  let x := Float.ofNat d.digits
  if d.digits = 0 then some 0
  else if d.power < 0 then some (divided x d.power.natAbs)
  else if 308 < d.power then none
  else
    let y := x * powerOfTen d.power.natAbs
    if y.isInf then none else some y

end PageCoverage.Decimal
