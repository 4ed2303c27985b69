import Tabula.Number.Shortest

/-!
# Texts of doubles

Three spellings of a double built on its shortest digits: positional, JSON and
positional with a point.
-/

namespace Tabula.Number

/-- The digits of a natural number as characters. -/
def digitChars (n : Nat) : List Char :=
  Nat.toDigits 10 n

/-- `n` copies of the digit zero. -/
def zeros (n : Nat) : List Char :=
  List.replicate n '0'

/-- Positional text of `d · 10^e` without sign: digits, then zeros, or a point. -/
def positionalDigits (d : Nat) (e : Int) : List Char :=
  let s := digitChars d
  if e ≥ 0 then s ++ zeros e.toNat
  else
    let p := (s.length : Int) + e
    if p > 0 then s.take p.toNat ++ '.' :: s.drop p.toNat
    else '0' :: '.' :: zeros (-p).toNat ++ s

/-- The shortest digits of a finite double, `(0, 0)` for zero. -/
def finiteDigits (b : Binary) : Nat × Int :=
  if b.mant == 0 then (0, 0) else b.shortest

/-- The sign prefix of a finite double. -/
def signPrefix (b : Binary) : List Char :=
  if b.neg then ['-'] else []

/-- Positional text, with no exponent ever. -/
def positional (x : Float) : String :=
  match kindOf x with
  | .nan => "NaN"
  | .infinite neg => if neg then "-inf" else "inf"
  | .finite b =>
    let (d, e) := finiteDigits b
    String.ofList (signPrefix b ++ positionalDigits d e)

/-- Positional text with `.0` added when it has no decimal point. -/
def pointed (x : Float) : String :=
  match kindOf x with
  | .finite _ =>
    let s := positional x
    if s.toList.contains '.' then s else s ++ ".0"
  | _ => positional x

/-- The exponent part `e<k>` of the exponential spelling. -/
def exponentChars (k : Int) : List Char :=
  'e' :: (if k < 0 then '-' :: digitChars (-k).toNat else digitChars k.toNat)

/-- The JSON spelling of a finite double (see the module note). -/
def jsonDigits (d : Nat) (e : Int) : List Char :=
  let s := digitChars d
  let len : Int := s.length
  let kk := len + e
  if 0 ≤ e ∧ kk ≤ 16 then s ++ zeros e.toNat ++ ['.', '0']
  else if 0 < kk ∧ kk ≤ 16 then s.take kk.toNat ++ '.' :: s.drop kk.toNat
  else if -5 < kk ∧ kk ≤ 0 then '0' :: '.' :: zeros (-kk).toNat ++ s
  else match s with
    | [c] => c :: exponentChars (kk - 1)
    | c :: rest => c :: '.' :: rest ++ exponentChars (kk - 1)
    | [] => exponentChars (kk - 1)

/-- The JSON spelling of a double; `none` when it is not finite, since JSON has no
spelling for it. -/
def json (x : Float) : Option String :=
  match kindOf x with
  | .finite b =>
    if b.mant == 0 then some (if b.neg then "-0.0" else "0.0")
    else
      let (d, e) := b.shortest
      some (String.ofList (signPrefix b ++ jsonDigits d e))
  | _ => none

end Tabula.Number
