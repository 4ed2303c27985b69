import Tabula.Query

/-!
# Ordering rows
-/

namespace Tabula

/-- Compares two rows by a list of sort keys. -/
def compareRows (keys : List SortKey) (table : Option String) (a b : Row) : Ordering :=
  match keys with
  | [] => .eq
  | k :: ks =>
    let o := (a.resolveOrNull k.field table).sortCmp (b.resolveOrNull k.field table)
    let o := if k.asc then o else o.swap
    if o != .eq then o else compareRows ks table a b

/-- Sorts rows stably by a list of sort keys. -/
def sortRows (keys : List SortKey) (table : Option String) (rows : List Row) : List Row :=
  if keys.isEmpty then rows else rows.mergeSort fun a b => compareRows keys table a b != .gt

end Tabula
