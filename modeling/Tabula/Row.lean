import Tabula.Value

/-!
# Rows

Named cells in insertion order, and the lookup of a field reference that may be
qualified by a table name.
-/

namespace Tabula

/-- A row: named cells in insertion order, each name at most once. -/
structure Row where
  fields : List (String × Value)
  nodup : (fields.map (·.1)).Nodup

namespace Row

/-- The row with no cells. -/
def empty : Row := ⟨[], List.nodup_nil⟩

instance : Inhabited Row := ⟨empty⟩

/-- The cell of a name. -/
def get? (r : Row) (name : String) : Option Value :=
  (r.fields.find? (·.1 == name)).map (·.2)

/-- Whether the row has a cell of this name. -/
def contains (r : Row) (name : String) : Bool :=
  r.fields.any (·.1 == name)

/-- Writes a cell into a list of cells: in place when the name is present, else at
the end. -/
def setCell (name : String) (v : Value) : List (String × Value) → List (String × Value)
  | [] => [(name, v)]
  | (k, w) :: rest => if k == name then (k, v) :: rest else (k, w) :: setCell name v rest

theorem map_fst_setCell (name : String) (v : Value) (cells : List (String × Value)) :
    (setCell name v cells).map (·.1) =
      if name ∈ cells.map (·.1) then cells.map (·.1) else cells.map (·.1) ++ [name] := by
  induction cells with
  | nil => simp [setCell]
  | cons c cells ih =>
      obtain ⟨k, w⟩ := c
      by_cases hk : k = name
      · subst hk
        simp [setCell]
      · have hk' : (k == name) = false := by simpa using hk
        simp only [setCell, hk', Bool.false_eq_true, ite_false, List.map_cons, ih]
        by_cases hmem : name ∈ cells.map (·.1)
        · simp [hmem]
        · simp [hmem, Ne.symm hk]

theorem nodup_setCell (name : String) (v : Value) {cells : List (String × Value)}
    (h : (cells.map (·.1)).Nodup) : ((setCell name v cells).map (·.1)).Nodup := by
  rw [map_fst_setCell]
  split
  · exact h
  · next hmem =>
      refine List.nodup_append.mpr ⟨h, by simp, ?_⟩
      intro a ha b hb
      simp only [List.mem_singleton] at hb
      subst hb
      exact fun hab => hmem (hab ▸ ha)

/-- Writes a cell: in place when the name is present, else at the end. -/
def insert (r : Row) (name : String) (v : Value) : Row :=
  ⟨setCell name v r.fields, nodup_setCell name v r.nodup⟩

/-- The row built by writing the pairs in order. -/
def ofPairs (ps : List (String × Value)) : Row :=
  ps.foldl (fun r p => r.insert p.1 p.2) empty

/-- The names of the cells, in order. -/
def names (r : Row) : List String :=
  r.fields.map (·.1)

/-- The cells, in order. -/
def values (r : Row) : List Value :=
  r.fields.map (·.2)

/-- The number of cells. -/
def size (r : Row) : Nat :=
  r.fields.length

/-- Splits a reference at its first dot into qualifier and bare name. -/
def splitQualifier (ref : String) : Option (String × String) :=
  match ref.toList.span (· != '.') with
  | (q, _ :: bare) => some (String.ofList q, String.ofList bare)
  | (_, []) => none

/-- Looks up a field reference, with an optional default table (see the module note). -/
def resolve (r : Row) (ref : String) (table : Option String) : Option Value :=
  match r.get? ref with
  | some v => some v
  | none =>
    match table with
    | none => none
    | some t =>
      match splitQualifier ref with
      | some (q, bare) => if q == t then r.get? bare else none
      | none => r.get? (t ++ "." ++ ref)

/-- Looks up a field reference, reading a missing one as nothing. -/
def resolveOrNull (r : Row) (ref : String) (table : Option String) : Value :=
  (r.resolve ref table).getD .null

end Row

/-- The names of a list of rows, each once, in order of first appearance. -/
def columnUnion (rows : List Row) : List String :=
  rows.foldl (fun acc r => r.names.foldl (fun acc n => if acc.contains n then acc else acc ++ [n]) acc) []

end Tabula
