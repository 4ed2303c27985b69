import Tabula.Number.Binary

/-!
# Reading decimal text as a double
-/

namespace Tabula.Number

/-- A decimal `± mant · 10^exp`, or a special value, as read from text. -/
inductive Decimal where
  | finite (neg : Bool) (mant : Nat) (exp : Int)
  | infinity (neg : Bool)
  | nan
deriving Repr, DecidableEq

/-- Splits off the leading ASCII digits. -/
def spanDigits (cs : List Char) : List Char × List Char :=
  (cs.takeWhile Char.isDigit, cs.dropWhile Char.isDigit)

/-- The value of a list of ASCII digits. -/
def digitsValue (ds : List Char) : Nat :=
  ds.foldl (fun n c => 10 * n + (c.toNat - '0'.toNat)) 0

/-- Reads an optional sign. -/
def readSign : List Char → Bool × List Char
  | '+' :: r => (false, r)
  | '-' :: r => (true, r)
  | r => (false, r)

/-- Reads the exponent part, which must use up the rest of the text. -/
def readExponent : List Char → Option Int
  | [] => some 0
  | c :: r =>
    if c == 'e' || c == 'E' then
      let (neg, r) := readSign r
      let (ds, rest) := spanDigits r
      if ds.isEmpty || !rest.isEmpty then none
      else some (if neg then -(digitsValue ds : Int) else digitsValue ds)
    else none

/-- Reads a whole text by the grammar of the module note. -/
def Decimal.read? (s : String) : Option Decimal :=
  let (neg, r) := readSign s.toList
  let lower := String.ofList (r.map Char.toLower)
  if lower == "inf" || lower == "infinity" then some (.infinity neg)
  else if lower == "nan" then some .nan
  else
    let (whole, r) := spanDigits r
    let (frac, r, dot) := match r with
      | '.' :: r' => let (f, r'') := spanDigits r'; (f, r'', true)
      | _ => ([], r, false)
    if whole.isEmpty && frac.isEmpty then none
    else if !dot && !frac.isEmpty then none
    else
      match readExponent r with
      | none => none
      | some e => some (.finite neg (digitsValue (whole ++ frac)) (e - frac.length))

/-- The nearest double to `mant · 10^exp`; values past the range of doubles become
infinity or zero without computing their powers of ten. -/
def nearest (mant : Nat) (exp : Int) : Float :=
  if mant == 0 then 0
  else
    let lead := (Nat.toDigits 10 mant).length + exp
    if lead > 310 then Float.ofScientific 1 false 400
    else if lead < -330 then 0
    else if exp ≥ 0 then Float.ofScientific mant false exp.toNat
    else Float.ofScientific mant true (-exp).toNat

/-- The double a decimal denotes. -/
def Decimal.toFloat : Decimal → Float
  | .finite neg m e => if neg then -(nearest m e) else nearest m e
  | .infinity neg => if neg then -(Float.ofScientific 1 false 400) else Float.ofScientific 1 false 400
  | .nan => 0.0 / 0.0

/-- Reads text as a double by the grammar of the module note. -/
def readFloat? (s : String) : Option Float :=
  (Decimal.read? s).map Decimal.toFloat

end Tabula.Number
