import Tabula.Text.Case

/-!
# LIKE patterns

`%` stands for any run of characters, `_` for one, anything else for itself without
regard to case; a pattern matches the whole text.
-/

namespace Tabula

/-- One element of a LIKE pattern. -/
inductive LikeToken where
  | anyRun
  | anyOne
  | lit (c : Char)
deriving Repr, DecidableEq, Inhabited

/-- A LIKE pattern as its elements. -/
abbrev LikePattern := List LikeToken

namespace LikePattern

/-- Reads a pattern from its text. -/
def ofString (s : String) : LikePattern :=
  s.toList.map fun c => if c == '%' then LikeToken.anyRun else if c == '_' then .anyOne else .lit c

/-- The rule, by recursion on pattern and text. -/
def acceptsChars : LikePattern → List Char → Bool
  | [], cs => cs.isEmpty
  | .anyRun :: ps, [] => acceptsChars ps []
  | .anyRun :: ps, c :: cs => acceptsChars ps (c :: cs) || acceptsChars (.anyRun :: ps) cs
  | .anyOne :: _, [] => false
  | .anyOne :: ps, _ :: cs => acceptsChars ps cs
  | .lit _ :: _, [] => false
  | .lit a :: ps, c :: cs => Text.sameFold a c && acceptsChars ps cs
termination_by ps cs => (cs.length, ps.length)

/-- Adds to a set of positions every position reachable by skipping `%`. -/
def close (ps : Array LikeToken) (set : List Nat) : List Nat :=
  go set ps.size set
where
  /-- Follows `%` from the positions in `todo`, at most `fuel` steps deep. -/
  go (todo : List Nat) (fuel : Nat) (acc : List Nat) : List Nat :=
    match fuel with
    | 0 => acc
    | fuel + 1 =>
      let next := todo.filterMap fun (i : Nat) =>
        match ps[i]? with
        | some .anyRun => if acc.contains (i + 1) then none else some (i + 1)
        | _ => none
      if next.isEmpty then acc else go next fuel (acc ++ next)

/-- The positions after reading one character from a set of positions. -/
def step (ps : Array LikeToken) (set : List Nat) (c : Char) : List Nat :=
  let moved := set.foldl (fun (acc : List Nat) (i : Nat) =>
    match ps[i]? with
    | some .anyRun => if acc.contains i then acc else acc ++ [i]
    | some .anyOne => if acc.contains (i + 1) then acc else acc ++ [i + 1]
    | some (.lit a) => if Text.sameFold a c && !acc.contains (i + 1) then acc ++ [i + 1] else acc
    | none => acc) []
  close ps moved

/-- Whether the pattern matches the whole text, by advancing the set of positions. -/
def accepts (p : LikePattern) (s : String) : Bool :=
  let ps := p.toArray
  let final := s.toList.foldl (step ps) (close ps [0])
  final.contains ps.size

end LikePattern

end Tabula
