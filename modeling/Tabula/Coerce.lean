import Tabula.Value
import Tabula.Text.Blank
import Tabula.Number.Read

/-!
# Coercion for comparison

A text loses one pair of outer quotes and becomes a number when the rest reads as a
finite number; a number never compares with a text.
-/

namespace Tabula

/-- A value made ready for comparison. -/
inductive Coerced where
  | null
  | number (x : Float)
  | text (s : String)
deriving Inhabited

/-- Removes one pair of matching single or double quotes around a text. -/
def unquote (s : String) : String :=
  match s.toList with
  | c :: rest@(_ :: _) =>
    if (c == '\'' || c == '"') && rest.getLast? == some c then String.ofList rest.dropLast else s
  | _ => s

/-- Reads a text as a finite number, ignoring surrounding blanks. -/
def parseNumber? (s : String) : Option Float :=
  let t := Text.trim s
  if t.isEmpty then none
  else match Number.readFloat? t with
    | some x => if x.isFinite then some x else none
    | none => none

/-- Coerces a text: unquoted, then read as a number when it is one. -/
def coerceText (s : String) : Coerced :=
  let t := unquote s
  match parseNumber? t with
  | some x => .number x
  | none => .text t

/-- Coerces a cell. -/
def coerce : Value → Coerced
  | .null => .null
  | .number x => .number x
  | .text s => coerceText s

namespace Coerced

/-- The number a coerced value holds, if any. -/
def number? : Coerced → Option Float
  | .number x => some x
  | _ => none

/-- Whether the value is nothing. -/
def isNull : Coerced → Bool
  | .null => true
  | _ => false

/-- Compares two doubles; `none` when either is NaN. -/
def compareFloat (a b : Float) : Option Ordering :=
  if a < b then some .lt else if b < a then some .gt else if a == b then some .eq else none

/-- The natural order of two values of one kind; `none` across kinds. -/
def compareSame : Coerced → Coerced → Option Ordering
  | .number a, .number b => compareFloat a b
  | .text a, .text b => some (compare a b)
  | .null, .null => some .eq
  | _, _ => none

end Coerced

/-- The number a cell coerces to, if any. -/
def numberOf? (v : Value) : Option Float :=
  (coerce v).number?

end Tabula
