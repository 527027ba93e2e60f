import CloneScan.Decimal.Binary

/-!
# Shortest Decimals

The shortest decimal text that a floating-point number can be told by. Every decimal that is
closer to the number than to its neighbours reads back as it; of those with the fewest digits
the nearest is taken, and the even one of two that are equally near.

A decimal with a given count of digits lies on a grid, and if any point of the grid reads back
as the number then so does one of the two points around it. So for each count two points are
tried, in exact arithmetic.

The text is positional while the point stands near enough to the first digit, on either side,
and has an exponent otherwise. How near that is is up to whoever writes the text.

## Main definitions

* `Decimal`: A whole number times a power of ten.
* `DecimalLayout`: Where the text of a decimal has an exponent.
* `Binary.shortest`: The shortest decimal of a number.
* `Decimal.render`: A decimal as text.
* `Binary.render`: A number as text.
-/

namespace CloneScan

/-- The number `digits · 10 ^ power`. -/
structure Decimal where
  /-- The factor. -/
  digits : Nat
  /-- The power of ten. -/
  power : Int
  deriving Repr, DecidableEq

/-- Where the text of a decimal has an exponent: beyond so many digits in front of the point, and
    beyond so many zeros between the point and the first digit. -/
structure DecimalLayout where
  /-- The most digits in front of the point without an exponent. -/
  mostWhole : Nat
  /-- The most zeros right after the point without an exponent. -/
  mostZeros : Nat
  deriving Repr, DecidableEq

/-- The decimal without zeros at the end of its factor. -/
def Decimal.reduce (d : Decimal) : Decimal :=
  let zeros := ((Nat.toDigits 10 d.digits).reverse.takeWhile (· == '0')).length
  ⟨d.digits / Nat.pow 10 zeros, d.power + zeros⟩

namespace Binary

/-- The fractions with the given denominator that lie halfway to the neighbours of a number:
    the numerator below, the number's own, and the one above. -/
def halfways (b : Binary) : (Nat × Nat × Nat) × Nat :=
  let p := powerRatio 2 b.power
  let below := if b.digits = leastFull ∧ leastPower < b.power then 1 else 2
  (((4 * b.digits - below) * p.1, 4 * b.digits * p.1, (4 * b.digits + 2) * p.1), 4 * p.2)

/-- The power of ten of the first digit of a fraction that is not zero. -/
def leadingPower (num den : Nat) : Int :=
  if den ≤ num then ((Nat.toDigits 10 (num / den)).length : Int) - 1
  else -(((List.range 400).find? fun n => den ≤ num * Nat.pow 10 (n + 1)).getD 0 + 1)

/-- The best decimal with a given power of ten that reads back as the number, if there is one. -/
def onGrid (b : Binary) (power : Int) : Option Decimal :=
  let ((low, mid, high), den) := b.halfways
  let ten := powerRatio 10 power
  -- A point `n` of the grid is `n · ten.1 / ten.2`; both sides are brought to one denominator.
  let place (n : Nat) : Nat := n * ten.1 * den
  let bound (x : Nat) : Nat := x * ten.2
  let readsBack (n : Nat) : Bool :=
    if b.digits % 2 = 0 then bound low ≤ place n && place n ≤ bound high
    else bound low < place n && place n < bound high
  let n := bound mid / (ten.1 * den)
  let down := bound mid - place n
  let up := place (n + 1) - bound mid
  match readsBack n, readsBack (n + 1) with
  | false, false => none
  | true, false => some ⟨n, power⟩
  | false, true => some ⟨n + 1, power⟩
  | true, true =>
    if down < up ∨ down = up ∧ n % 2 = 0 then some ⟨n, power⟩ else some ⟨n + 1, power⟩

/-- The shortest decimal that reads back as a number that is not zero. The point above may have a
    digit more than the grid is for; it then ends in a zero. -/
def shortest (b : Binary) : Decimal :=
  let v := b.toRatio
  let lead := leadingPower v.1 v.2
  ((List.range 17).findSome? fun k : Nat => (b.onGrid (lead - k)).map Decimal.reduce).getD
    ⟨0, 0⟩

end Binary

namespace Decimal

/-- A decimal as text. -/
def render (l : DecimalLayout) (d : Decimal) : String :=
  let digits := Nat.toDigits 10 d.digits
  let count : Int := digits.length
  let point := count + d.power
  if 0 ≤ d.power ∧ point ≤ l.mostWhole then
    String.ofList (digits ++ List.replicate d.power.toNat '0') ++ ".0"
  else if 0 < point ∧ point ≤ l.mostWhole then
    String.ofList (digits.take point.toNat ++ '.' :: digits.drop point.toNat)
  else if -l.mostZeros ≤ point ∧ point ≤ 0 then
    "0." ++ String.ofList (List.replicate (-point).toNat '0' ++ digits)
  else
    let fraction := if digits.tail.isEmpty then [] else '.' :: digits.tail
    String.ofList (digits.take 1 ++ fraction) ++ s!"e{point - 1}"

end Decimal

/-- A number as text. -/
def Binary.render (l : DecimalLayout) (negative : Bool) (b : Binary) : String :=
  (if negative then "-" else "") ++ if b.digits = 0 then "0.0" else b.shortest.render l

end CloneScan
