import Std.Data.HashMap
import Tabula.Query

/-!
# Equi-joins

Rows of two tables paired by equal key values through a hash index, and the shape of
each output row.
-/

namespace Tabula

/-- What a join needs besides its two lists of rows. -/
structure JoinContext where
  mainTable : String
  joinTable : String
  /-- The key field of the main rows. -/
  left : String
  /-- The key field of the joined rows. -/
  right : String
  /-- The fields each output row carries. -/
  fields : List String
  /-- `SELECT *`: carry every field of both sides. -/
  wildcard : Bool
deriving Inhabited

namespace Join

/-- Resolves a field that must be present. -/
def requireField (row : Row) (name table : String) : Except Error Value :=
  match row.resolve name (some table) with
  | some v => .ok v
  | none => .error (.invalidField name)

/-- Pairs each row with its key, failing at the first row without one. -/
def keyed (rows : List Row) (name table : String) : Except Error (List (Value × Row)) :=
  rows.mapM fun r => (requireField r name table).map fun k => (k, r)

/-- The index of one side: each non-null key with the rows that have it, in row order.
Keys are told apart as cells are, by `Value.same`. -/
def index (keyed : List (Value × Row)) : Std.HashMap Value (List Row) :=
  keyed.foldl (fun idx p => if p.1.isNull then idx else idx.insert p.1 (idx.getD p.1 [] ++ [p.2])) ∅

/-- The rows an index holds under a key; a null key matches nothing. -/
def probe (idx : Std.HashMap Value (List Row)) (k : Value) : List Row :=
  if k.isNull then [] else idx.getD k []

/-- The columns of the joined table: those of its first row. -/
def shape (joined : List Row) : List String :=
  match joined with
  | [] => []
  | r :: _ => r.names

/-- Null for a column the joined table has, named bare or qualified by that table. -/
def nullIfInShape (shape : List String) (field joinTable : String) : Option Value :=
  let bare := match Row.splitQualifier field with
    | some (t, b) => if t == joinTable then some b else none
    | none => some field
  match bare with
  | some b => if shape.contains b then some .null else none
  | none => none

/-- The value a requested field takes in an output row, if either side has it. -/
def fieldValue (ctx : JoinContext) (shape : List String) (main : Row) (joined : Option Row)
    (field : String) : Option Value :=
  let fromMain := main.resolve field (some ctx.mainTable)
  let fromJoin := match joined with
    | some r => r.resolve field (some ctx.joinTable)
    | none => nullIfInShape shape field ctx.joinTable
  match Row.splitQualifier field with
  | some (t, _) => if t == ctx.mainTable then fromMain else if t == ctx.joinTable then fromJoin else none
  | none => match fromMain with
    | some v => some v
    | none => fromJoin

/-- Shapes one output row from a main row and its partner, if any. -/
def resultRow (ctx : JoinContext) (shape : List String) (includeMain : Bool) (main : Row)
    (joined : Option Row) : Row :=
  let withMain :=
    if includeMain || ctx.wildcard then
      main.fields.foldl (fun r p => r.insert (ctx.mainTable ++ "." ++ p.1) p.2) Row.empty
    else Row.empty
  let withJoined :=
    if ctx.wildcard then
      shape.foldl (fun r n =>
        r.insert (ctx.joinTable ++ "." ++ n) ((joined.bind (·.get? n)).getD .null)) withMain
    else withMain
  ctx.fields.foldl (fun r f =>
    match fieldValue ctx shape main joined f with
    | some v => r.insert f v
    | none => r) withJoined

/-- Inner join: one row per matching pair, in main order and then joined order. -/
def inner (ctx : JoinContext) (main joined : List Row) : Except Error (List Row) := do
  let idx ← index <$> keyed joined ctx.right ctx.joinTable
  let sh := shape joined
  let parts ← main.mapM fun m => do
    let k ← requireField m ctx.left ctx.mainTable
    pure ((probe idx k).map fun j => resultRow ctx sh false m (some j))
  pure parts.flatten

/-- Left join: every main row with each of its partners, or once without one. -/
def left (ctx : JoinContext) (main joined : List Row) : Except Error (List Row) := do
  let idx ← index <$> keyed joined ctx.right ctx.joinTable
  let sh := shape joined
  let parts ← main.mapM fun m => do
    let k ← requireField m ctx.left ctx.mainTable
    let ms := probe idx k
    pure (if ms.isEmpty then [resultRow ctx sh true m none]
      else ms.map fun j => resultRow ctx sh true m (some j))
  pure parts.flatten

/-- The all-null main row an unmatched joined row pairs with in a right join. -/
def nullMain (main : List Row) : Row :=
  match main with
  | [] => Row.empty
  | r :: _ => ⟨r.names.map fun n => (n, .null), by simpa [Row.names, List.map_map, Function.comp_def] using r.nodup⟩

/-- Right join: every joined row with each of its partners, or once with `nullMain`. -/
def right (ctx : JoinContext) (main joined : List Row) : Except Error (List Row) := do
  let idx ← index <$> keyed main ctx.left ctx.mainTable
  let sh := shape joined
  let parts ← joined.mapM fun j => do
    let k ← requireField j ctx.right ctx.joinTable
    let ms := probe idx k
    pure (if ms.isEmpty then [resultRow ctx sh true (nullMain main) (some j)]
      else ms.map fun m => resultRow ctx sh true m (some j))
  pure parts.flatten

end Join

/-- Joins two lists of rows by the given kind. -/
def joinRows (kind : JoinKind) (ctx : JoinContext) (main joined : List Row) :
    Except Error (List Row) :=
  match kind with
  | .inner => Join.inner ctx main joined
  | .left => Join.left ctx main joined
  | .right => Join.right ctx main joined

end Tabula
