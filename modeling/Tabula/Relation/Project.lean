import Tabula.Query

/-!
# Projection
-/

namespace Tabula

/-- Whether a field name is qualified by one of the given tables. -/
def qualifiedBy (name : String) (tables : List String) : Bool :=
  match Row.splitQualifier name with
  | some (t, _) => tables.contains t
  | none => false

/-- Projects one row onto a select list. -/
def projectRow (items : List SelectItem) (table : Option String) (wildcardTables : List String)
    (row : Row) : Row :=
  items.foldl (fun out item =>
    match item with
    | .wildcard =>
      row.fields.foldl (fun o p =>
        if wildcardTables.isEmpty || qualifiedBy p.1 wildcardTables then o.insert p.1 p.2 else o) out
    | other => out.insert other.label (row.resolveOrNull other.label table)) Row.empty

/-- Whether projection leaves rows as they are: a lone wildcard over all fields. -/
def projectsIdentity (items : List SelectItem) (wildcardTables : List String) : Bool :=
  wildcardTables.isEmpty && items == [.wildcard]

end Tabula
