import Tabula.Text.CaseTable

/-!
# Upper case and case folding
-/

namespace Tabula.Text

/-- The shift that the run table `rs` gives the code point `n`, if a run covers it. -/
def runShift (rs : Array (Nat × Nat × Nat × Int)) (n : Nat) : Option Int :=
  go 0 rs.size
where
  /-- Searches the runs with index in `[lo, hi)`. -/
  go (lo hi : Nat) : Option Int :=
    if _h : lo < hi then
      let mid := (lo + hi) / 2
      match rs[mid]? with
      | some (a, b, step, shift) =>
        if n < a then go lo mid
        else if b < n then go (mid + 1) hi
        else if (n - a) % step == 0 then some shift else none
      | none => none
    else none
  termination_by hi - lo

/-- Applies a run table to a character; characters outside every run stay. -/
def applyRuns (rs : Array (Nat × Nat × Nat × Int)) (c : Char) : Char :=
  match runShift rs c.toNat with
  | some shift => Char.ofNat (c.toNat + shift).toNat
  | none => c

/-- The simple case folding of a character. -/
def fold (c : Char) : Char :=
  if c.toNat < 0x80 then c.toLower else applyRuns foldRuns c

/-- Two characters are equal without regard to case. -/
def sameFold (a b : Char) : Bool :=
  a == b || fold a == fold b

/-- The full upper-case mapping of a character, as a list of characters. -/
def upperChars (c : Char) : List Char :=
  if c.toNat < 0x80 then [c.toUpper]
  else match upperExpansions.find? (·.1 == c.toNat) with
    | some (_, s) => s.toList
    | none => [applyRuns upperRuns c]

/-- The upper-case form of a string under the full Unicode mapping. -/
def toUpper (s : String) : String :=
  String.ofList (s.toList.flatMap upperChars)

/-- The upper-case form of a string where only ASCII letters change. -/
def toUpperAscii (s : String) : String :=
  String.ofList (s.toList.map Char.toUpper)

end Tabula.Text
