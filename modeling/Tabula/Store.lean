import Tabula.Csv
import Tabula.Error

/-!
# Table storage

A folder of CSV files or rows kept in memory; every load reads a whole table and every
save replaces one.
-/

namespace Tabula

/-- Checks that a table name names a file inside the folder. -/
def validateTableName (t : String) : Except Error Unit :=
  if t.isEmpty || t.toList.any (fun c => c == '/' || c == '\\' || c == Char.ofNat 0) || t == "." || t == ".." then
    .error (.storage ("invalid table name '" ++ t ++ "'"))
  else .ok ()

/-- The stem of a file name whose extension is `csv`; `..` and a name whose only dot comes
first have none. -/
def csvStem? (file : String) : Option String :=
  if file == ".." then none
  else
    let cs := file.toList
    match (List.range cs.length).reverse.find? (fun i => cs[i]? == some '.') with
    | some i =>
      if i == 0 then none
      else if String.ofList (cs.drop (i + 1)) == "csv" then some (String.ofList (cs.take i))
      else none
    | none => none

/-- Sets the entry under a key, in place if present and at the end otherwise. -/
def setEntry {α : Type} (k : String) (v : α) : List (String × α) → List (String × α)
  | [] => [(k, v)]
  | (k', v') :: rest => if k' == k then (k, v) :: rest else (k', v') :: setEntry k v rest

/-- Sorts names by their bytes. -/
def sortNames (ns : List String) : List String :=
  ns.mergeSort (fun a b => decide (a ≤ b))

/-- What reading a regular file gives: its bytes, or the system's message for why it
cannot be read. -/
inductive FileRead where
  | bytes (data : List UInt8)
  | unreadable (msg : String)
deriving DecidableEq, Inhabited

/-- Where tables are kept. -/
inductive Store where
  /-- A folder of CSV files, by file name, read and written with a delimiter. -/
  | folder (delimiter : Char) (files : List (String × FileRead))
  /-- Rows kept as they are, by table name. -/
  | memory (tables : List (String × List Row))
deriving Inhabited

namespace Store

/-- The file name of a table. -/
def fileName (t : String) : String := t ++ ".csv"

/-- All the rows of a table, in stored order. -/
def load (s : Store) (t : String) : Except Error (List Row) :=
  match s with
  | .folder d files => do
    validateTableName t
    match files.lookup (fileName t) with
    | some (.bytes data) => (Csv.readTableBytes d data).mapError .csv
    | some (.unreadable msg) => throw (.csv msg)
    | none => throw (.tableNotFound t)
  | .memory tables =>
    match tables.lookup t with
    | some rows => .ok rows
    | none => .error (.tableNotFound t)

/-- Replaces the contents of a table. -/
def save (s : Store) (t : String) (rows : List Row) : Except Error Store := do
  validateTableName t
  match s with
  | .folder d files =>
    pure (.folder d (setEntry (fileName t) (.bytes (Csv.utf8 (Csv.writeTable d rows))) files))
  | .memory tables => pure (.memory (setEntry t rows tables))

/-- Whether a table is kept. -/
def contains (s : Store) (t : String) : Bool :=
  match s with
  | .folder _ files => (validateTableName t).toBool && (files.lookup (fileName t)).isSome
  | .memory tables => (tables.lookup t).isSome

/-- The names of the tables kept, sorted. -/
def names (s : Store) : List String :=
  match s with
  | .folder _ files => sortNames (files.filterMap fun f => csvStem? f.1)
  | .memory tables => sortNames (tables.map (·.1))

/-- A table's file, when the store is a folder and the file exists. -/
def file? (s : Store) (t : String) : Option FileRead :=
  match s with
  | .folder _ files => files.lookup (fileName t)
  | .memory _ => none

end Store

end Tabula
