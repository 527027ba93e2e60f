/-!
# Binary Fractions of 53 Bits

The numbers that a floating-point word of 64 bits can hold, in exact arithmetic: a number of at
most 53 bits times a power of two. The power is at least −1074, and numbers from 2 to the
1024th on are too large. A fraction is rounded to the nearest such number, to the even one of
two that are equally near.

## Main definitions

* `Binary`: A number of at most 53 bits times a power of two.
* `Binary.ofRatio`: The nearest one to a fraction.
* `Binary.ofDecimal`: One close to a decimal number.
-/

namespace CloneScan

/-- The number `digits · 2 ^ power`. -/
structure Binary where
  /-- The factor, of at most 53 bits. -/
  digits : Nat
  /-- The power of two. -/
  power : Int
  deriving Repr, DecidableEq

namespace Binary

/-- The least power of two. -/
def leastPower : Int :=
  -1074

/-- The greatest power of two. -/
def greatestPower : Int :=
  971

/-- The least factor of 53 bits, the 52nd power of two. -/
def leastFull : Nat :=
  4503599627370496

/-- The least factor of more than 53 bits, the 53rd power of two. -/
def tooWide : Nat :=
  9007199254740992

/-- A power of a base as a fraction. -/
def powerRatio (base : Nat) (e : Int) : Nat × Nat :=
  if 0 ≤ e then (base.pow e.toNat, 1) else (1, base.pow (-e).toNat)

/-- The fraction that a number is. -/
def toRatio (b : Binary) : Nat × Nat :=
  let p := powerRatio 2 b.power
  (b.digits * p.1, p.2)

/-- The quotient, rounded to the nearest whole number, to the even one of two. -/
def roundDiv (num den : Nat) : Nat :=
  let q := num / den
  let twice := 2 * (num % den)
  if twice < den then q else if twice > den then q + 1 else q + q % 2

/-- The nearest number to a fraction; nothing when the fraction is too large. -/
def ofRatio (num den : Nat) : Option Binary :=
  if num = 0 then some ⟨0, leastPower⟩
  else
    -- The quotient has one or two bits more than it may keep, unless the power is at its least.
    let guess := max leastPower ((num.log2 : Int) - den.log2 - 53)
    let quotient (e : Int) : Nat × Nat := let p := powerRatio 2 e; (num * p.2, den * p.1)
    let first := quotient guess
    let power := if first.1 / first.2 < tooWide then guess else guess + 1
    let kept := quotient power
    let digits := roundDiv kept.1 kept.2
    let b : Binary := if digits < tooWide then ⟨digits, power⟩ else ⟨leastFull, power + 1⟩
    if b.power ≤ greatestPower then some b else none

/-- The number `b · 10 ^ e`, with the power of ten rounded before the product or quotient is. A
    negative power beyond the greatest that can be held is divided by in parts. -/
def scale : Nat → Binary → Int → Option Binary
  | 0, b, _ => some b
  | fuel + 1, b, e =>
    let v := b.toRatio
    if e.natAbs ≤ 308 then do
      let ten := (← ofRatio (Nat.pow 10 e.natAbs) 1).toRatio
      if 0 ≤ e then ofRatio (v.1 * ten.1) (v.2 * ten.2) else ofRatio (v.1 * ten.2) (v.2 * ten.1)
    else if b.digits = 0 then some b
    else if 0 ≤ e then none
    else do
      let ten := (← ofRatio (Nat.pow 10 308) 1).toRatio
      scale fuel (← ofRatio (v.1 * ten.2) (v.2 * ten.1)) (e + 308)

/-- The number that `n · 10 ^ e` is taken for; nothing when it is too large. -/
def ofDecimal (n : Nat) (e : Int) : Option Binary := do
  scale 4 (← ofRatio n 1) e

end Binary

end CloneScan
