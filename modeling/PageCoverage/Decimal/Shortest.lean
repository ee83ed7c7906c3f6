import PageCoverage.Decimal.Basic
import PageCoverage.Decimal.Binary

namespace PageCoverage

namespace Decimal

/-- Ten to the power `p`, or one where that is negative. -/
def tens (p : Int) : Nat := Nat.pow 10 p.toNat

/-- Whether `a · 10 ^ p · 2 ^ -e ≤ b`, decided in whole numbers. -/
def scaledLe (a : Nat) (p e : Int) (b : Nat) : Bool :=
  (a * tens p) <<< (-e).toNat ≤ (b * tens (-p)) <<< e.toNat

/-- Whether `b ≤ a · 10 ^ p · 2 ^ -e`. -/
def scaledGe (a : Nat) (p e : Int) (b : Nat) : Bool :=
  (b * tens (-p)) <<< e.toNat ≤ (a * tens p) <<< (-e).toNat

/--
Whether a decimal lies in the interval of reals that round to `mantissa · 2 ^ exponent`. In quarters
of a unit the interval reaches two up and two down, one down below a power of two; its ends belong to
it when the mantissa is even.
-/
def readsBackAs (d : Decimal) (b : Binary) : Bool :=
  let m := 4 * b.mantissa
  let low := if b.mantissa = 0x10000000000000 ∧ -1074 < b.exponent then m - 1 else m - 2
  let e := b.exponent - 2
  if b.mantissa % 2 = 0 then scaledGe d.digits d.power e low && scaledLe d.digits d.power e (m + 2)
  else !scaledLe d.digits d.power e low && !scaledGe d.digits d.power e (m + 2)

/-- The multiple of `10 ^ power` just below a positive number. -/
def floorAt (b : Binary) (power : Int) : Nat :=
  b.ratio.1 * tens (-power) / (b.ratio.2 * tens power)

/-- The distance from `d` to a number, over a denominator that depends on `d.power` alone. -/
def distance (d : Decimal) (b : Binary) : Nat :=
  let x := b.ratio.1 * tens (-d.power)
  let y := d.digits * tens d.power * b.ratio.2
  (x - y) + (y - x)

/-- The nearest multiple of `10 ^ power` that reads back, if one does. -/
def atPower? (b : Binary) (power : Int) : Option Decimal :=
  let below : Decimal := ⟨floorAt b power, power⟩
  let above : Decimal := ⟨floorAt b power + 1, power⟩
  match below.readsBackAs b, above.readsBackAs b with
  | true, true =>
    if distance below b < distance above b then some below
    else if distance above b < distance below b then some above
    else if below.digits % 2 = 0 then some below else some above
  | true, false => some below
  | false, true => some above
  | false, false => none

/-- The number of decimal digits of a number's whole part, none for a number below one. -/
def wholeDigits (b : Binary) : Nat :=
  let n := b.ratio.1 / b.ratio.2
  if n = 0 then 0 else (Nat.toDigits 10 n).length

/-- Try the powers from `power` downwards, the coarsest first. -/
def search (b : Binary) : Nat → Int → Decimal
  | 0, power => ⟨floorAt b power, power⟩
  | fuel + 1, power => (atPower? b power).getD (search b fuel (power - 1))

/-- Take off trailing zeros of the digits. -/
def trim : Nat → Decimal → Decimal
  | 0, d => d
  | fuel + 1, d => if d.digits ≠ 0 ∧ d.digits % 10 = 0 then trim fuel ⟨d.digits / 10, d.power + 1⟩ else d

/-- The shortest decimal of a positive finite double. -/
def ofBinary (b : Binary) : Decimal :=
  trim 400 (search b 400 (wholeDigits b))

structure Format where
  /-- The least place of the first digit that is written without an exponent. -/
  low : Int
  /-- The greatest such place. -/
  high : Int
  /-- The sign of an exponent that is not negative. -/
  plus : String

def zeros (n : Int) : String := String.ofList (List.replicate n.toNat '0')

/-- The text of a positive decimal: plain with a point while the first digit's place allows it. -/
def render (f : Format) (d : Decimal) : String :=
  let ds := Nat.toDigits 10 d.digits
  let n : Int := ds.length
  let place := n + d.power - 1
  if place < f.low ∨ f.high < place then
    let tail := if ds.length = 1 then "" else "." ++ String.ofList (ds.drop 1)
    String.ofList (ds.take 1) ++ tail ++ "e" ++ (if place < 0 then "-" else f.plus) ++ toString place.natAbs
  else if 0 ≤ d.power then String.ofList ds ++ zeros d.power ++ ".0"
  else if 0 ≤ place then
    String.ofList (ds.take (place + 1).toNat) ++ "." ++ String.ofList (ds.drop (place + 1).toNat)
  else "0." ++ zeros (-place - 1) ++ String.ofList ds

end Decimal

/-- Numbers from a hundred-thousandth to below ten to the sixteenth are written without an exponent. -/
def numberFormat : Decimal.Format := ⟨-5, 15, "+"⟩

/-- The shortest text of a finite double; it always has a point or an exponent. -/
def shortestText (x : Float) : String :=
  let b := Binary.ofFloat x
  (if b.negative then "-" else "") ++
    if b.mantissa = 0 then "0.0" else (Decimal.ofBinary b).render numberFormat

end PageCoverage
