/-!
# Binary64 values as integers

A finite double as `±mant · 2^exp`, so that decimal questions about it are settled in
natural-number arithmetic.
-/

namespace Tabula.Number

/-- A finite double `(-1)^neg · mant · 2^exp`; `low` marks the smallest mantissa of a binade,
where the gap below is half the gap above. -/
structure Binary where
  neg : Bool
  mant : Nat
  exp : Int
  low : Bool
deriving Repr, DecidableEq

/-- What a bit pattern denotes: not a number, a signed infinity, or a finite value. -/
inductive Kind where
  | nan
  | infinite (neg : Bool)
  | finite (b : Binary)
deriving Repr, DecidableEq

/-- Decodes the bit pattern of a double. -/
def Kind.ofBits (bits : Nat) : Kind :=
  let neg : Bool := (bits / Nat.pow 2 63) % 2 == 1
  let e : Nat := (bits / Nat.pow 2 52) % 2048
  let f : Nat := bits % Nat.pow 2 52
  if e == 2047 then (if f == 0 then .infinite neg else .nan)
  else if e == 0 then .finite ⟨neg, f, -1074, false⟩
  else .finite ⟨neg, f + Nat.pow 2 52, (e : Int) - 1075, f == 0 && e > 1⟩

/-- The kind of a double. -/
def kindOf (x : Float) : Kind :=
  Kind.ofBits x.toBits.toNat

/-- Whether a double is negative, counting `-0.0` and negative infinity. -/
def isNegative (x : Float) : Bool :=
  (x.toBits.toNat / Nat.pow 2 63) % 2 == 1

end Tabula.Number

namespace Tabula.Number

/-- The integer a double equals, when it is a finite whole number. -/
def integral? (x : Float) : Option Int :=
  match kindOf x with
  | .finite b =>
    let m : Int := if b.neg then -(b.mant : Int) else b.mant
    if 0 ≤ b.exp then some (m * Int.ofNat (Nat.pow 2 b.exp.toNat))
    else if b.mant % Nat.pow 2 (-b.exp).toNat == 0 then some (m / Int.ofNat (Nat.pow 2 (-b.exp).toNat))
    else none
  | _ => none

end Tabula.Number
