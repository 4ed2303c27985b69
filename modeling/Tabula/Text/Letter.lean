import Tabula.Text.LetterTable

/-!
# Letters and digits
-/

namespace Tabula.Text

/-- Whether `n` lies in one of the sorted, disjoint, inclusive ranges `rs`. -/
def inRanges (rs : Array (Nat × Nat)) (n : Nat) : Bool :=
  go 0 rs.size
where
  /-- Searches the ranges with index in `[lo, hi)`. -/
  go (lo hi : Nat) : Bool :=
    if _h : lo < hi then
      let mid := (lo + hi) / 2
      match rs[mid]? with
      | some (a, b) =>
        if n < a then go lo mid
        else if b < n then go (mid + 1) hi
        else true
      | none => false
    else false
  termination_by hi - lo

/-- A character is alphabetic when it is a letter or a letter number. -/
def isAlphabetic (c : Char) : Bool :=
  if c.toNat < 0x80 then c.isAlpha else inRanges alphabeticRanges c.toNat

/-- A character is numeric when it is a digit, a letter number or another number. -/
def isNumeric (c : Char) : Bool :=
  if c.toNat < 0x80 then c.isDigit else inRanges numericRanges c.toNat

/-- A character is alphanumeric when it is alphabetic or numeric. -/
def isAlphanumeric (c : Char) : Bool :=
  isAlphabetic c || isNumeric c

end Tabula.Text
