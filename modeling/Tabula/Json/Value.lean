import Tabula.Json.Basic
import Tabula.Row
import Tabula.Number.Binary

/-!
# Cells and rows as JSON
-/

namespace Tabula

/-- The largest magnitude below which whole numbers are written as integers. -/
def exactIntBound : Int := Int.ofNat (Nat.pow 2 53)

/-- A cell as JSON. -/
def Value.toJson : Value → Json
  | .null => .null
  | .text s => .str s
  | .number x =>
    match Number.integral? x with
    | some n => if n.natAbs < exactIntBound then .int n else .float x
    | none => .float x

/-- A row as a JSON object. -/
def Row.toJson (r : Row) : Json :=
  .obj (r.fields.map fun p => (p.1, p.2.toJson))

end Tabula
