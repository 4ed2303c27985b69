import Tabula.Number.Binary

/-!
# Shortest decimal digits

The decimal with the fewest digits that reads back as a given double, and of those the
nearest to it.
-/

namespace Tabula.Number

/-- The count of decimal digits of a natural number (one for zero). -/
def digitCount (n : Nat) : Nat :=
  (Nat.toDigits 10 n).length

/-- A positive value `num / den` in exact arithmetic. -/
structure Ratio where
  num : Nat
  den : Nat
deriving Repr

/-- The decimal exponent `k` of the leading digit: `10^k ≤ num/den < 10^(k+1)`,
for a positive ratio. -/
def Ratio.leadExp (r : Ratio) : Int :=
  let ip := r.num / r.den
  if ip > 0 then (digitCount ip : Int) - 1
  else
    let j0 := digitCount r.den - digitCount r.num
    if r.num * Nat.pow 10 j0 ≥ r.den then -(j0 : Int) else -((j0 : Int) + 1)

/-- The rounding interval of a double as three numerators over one denominator:
the lower end, the value and the upper end. -/
structure Interval where
  lo : Nat
  mid : Nat
  hi : Nat
  den : Nat
  closed : Bool
deriving Repr

/-- The rounding interval of a positive finite double. -/
def Binary.interval (b : Binary) : Interval :=
  let lo4 := if b.low then 4 * b.mant - 1 else 4 * b.mant - 2
  let q := b.exp - 2
  if q ≥ 0 then
    let s := Nat.pow 2 q.toNat
    ⟨lo4 * s, 4 * b.mant * s, (4 * b.mant + 2) * s, 1, b.mant % 2 == 0⟩
  else
    ⟨lo4, 4 * b.mant, 4 * b.mant + 2, Nat.pow 2 (-q).toNat, b.mant % 2 == 0⟩

/-- Rounds `a / u` to the nearest natural number, a tie going to the even one. -/
def roundDiv (a u : Nat) : Nat :=
  let r := a / u
  let rem := a % u
  if 2 * rem > u then r + 1
  else if 2 * rem < u then r
  else if r % 2 == 0 then r else r + 1

/-- The multiplier of the numerators and the grid unit for the decimal grid `10^e`:
`d · 10^e` lies at or above `x / den` exactly when `d · unit ≥ x · mult`. -/
def gridScale (e : Int) (den : Nat) : Nat × Nat :=
  if e ≥ 0 then (1, Nat.pow 10 e.toNat * den) else (Nat.pow 10 (-e).toNat, den)

/-- The multiple of the grid `10^e` in the interval that is nearest to the value, if
the interval holds a point of the grid. -/
def Interval.onGrid (iv : Interval) (e : Int) : Option Nat :=
  let (mult, unit) := gridScale e iv.den
  let lo := iv.lo * mult
  let hi := iv.hi * mult
  let dmin0 := (lo + unit - 1) / unit
  let dmin := if !iv.closed && dmin0 * unit == lo then dmin0 + 1 else dmin0
  let dmax0 := hi / unit
  let dmax := if !iv.closed && dmax0 * unit == hi then dmax0 - 1 else dmax0
  if dmin ≤ dmax then
    let r := roundDiv (iv.mid * mult) unit
    some (max dmin (min dmax r))
  else none

/-- Removes trailing zeros from `d · 10^e`, keeping its value. -/
def stripZeros : Nat → Nat → Int → Nat × Int
  | 0, d, e => (d, e)
  | fuel + 1, d, e =>
    if d > 0 && d % 10 == 0 then stripZeros fuel (d / 10) (e + 1) else (d, e)

/-- Shortest digits of a positive finite double: `(d, e)` with the value reading
back from `d · 10^e`, `d` not a multiple of ten. -/
def Binary.shortest (b : Binary) : Nat × Int :=
  let iv := b.interval
  let k := Ratio.leadExp ⟨iv.mid, iv.den⟩
  let found := (List.range 17).findSome? fun (i : Nat) =>
    let e := k - (i : Int)
    (iv.onGrid e).map fun d => (d, e)
  match found with
  | some (d, e) => stripZeros 20 d e
  | none =>
    -- unreachable for a double: seventeen digits always meet the interval
    let e := k - 16
    stripZeros 20 (roundDiv (iv.mid * (gridScale e iv.den).1) (gridScale e iv.den).2) e

end Tabula.Number
