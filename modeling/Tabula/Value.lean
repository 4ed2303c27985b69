import Tabula.Number.Format

/-!
# Cell values

A cell holds nothing, a number or a text; cells are ordered for sorting, compared for
grouping and written as text.
-/

namespace Tabula

/-- A table cell. -/
inductive Value where
  | null
  | number (x : Float)
  | text (s : String)
deriving Inhabited

namespace Value

/-- The key of the total order on doubles: the bits as a signed integer, magnitude reversed
below zero. -/
def totalKey (x : Float) : Int :=
  let b := x.toBits.toNat
  if b < Nat.pow 2 63 then b else -1 - ((b - Nat.pow 2 63 : Nat) : Int)

/-- The bits that number equality compares: zero and NaN are each one value. -/
def numberBits (x : Float) : Nat :=
  if x == 0 then 0 else if x.isNaN then (0.0 / 0.0 : Float).toBits.toNat else x.toBits.toNat

/-- Ordering of integers. -/
def cmpInt (a b : Int) : Ordering :=
  if a < b then .lt else if a = b then .eq else .gt

/-- The sorting order of cells. -/
def sortCmp : Value → Value → Ordering
  | .null, .null => .eq
  | .null, _ => .lt
  | _, .null => .gt
  | .number a, .number b => cmpInt (totalKey a) (totalKey b)
  | .number _, .text _ => .lt
  | .text _, .number _ => .gt
  | .text a, .text b => compare a b

/-- Equality of cells as keys. -/
def same : Value → Value → Bool
  | .null, .null => true
  | .number a, .number b => numberBits a == numberBits b
  | .text a, .text b => a == b
  | _, _ => false

instance : BEq Value := ⟨same⟩

/-- Hashing that agrees with `same`: the kind of the cell, then a number's folded bits or
the text. -/
instance : Hashable Value where
  hash
    | .null => 0
    | .number x => mixHash 1 (hash (numberBits x))
    | .text s => mixHash 2 (hash s)

/-- The text of a cell in messages: `NULL`, the positional number, or the text. -/
def display : Value → String
  | .null => "NULL"
  | .number x => Number.positional x
  | .text s => s

/-- The text of a cell in a CSV file: empty for nothing. -/
def field : Value → String
  | .null => ""
  | v => v.display

/-- The text a cell holds, if it holds one. -/
def asText? : Value → Option String
  | .text s => some s
  | _ => none

/-- Whether the cell holds nothing. -/
def isNull : Value → Bool
  | .null => true
  | _ => false

end Value

end Tabula
