import Tabula.Query
import Tabula.Coerce

/-!
# Aggregation

COUNT, SUM, AVG, MIN and MAX over all rows or over groups kept in first-seen order.
-/

namespace Tabula

/-- Running figures over the numeric values of one aggregate's field. -/
structure Stats where
  sum : Float := 0
  min : Option Float := none
  max : Option Float := none
  seen : Nat := 0
deriving Inhabited

namespace Stats

/-- The smaller of two doubles; a NaN yields the other one. -/
def least (a b : Float) : Float :=
  if a.isNaN then b else if b.isNaN then a else if b < a then b else a

/-- The larger of two doubles; a NaN yields the other one. -/
def greatest (a b : Float) : Float :=
  if a.isNaN then b else if b.isNaN then a else if a < b then b else a

/-- Adds one value. -/
def add (s : Stats) (x : Float) : Stats :=
  { sum := s.sum + x
    min := some (match s.min with | none => x | some m => least m x)
    max := some (match s.max with | none => x | some m => greatest m x)
    seen := s.seen + 1 }

end Stats

/-- The running state of one group. -/
structure Accumulator where
  count : Nat
  stats : List Stats
deriving Inhabited

namespace Accumulator

/-- The state before any row. -/
def start (aggs : List Aggregate) : Accumulator :=
  ⟨0, aggs.map fun _ => {}⟩

/-- Folds one row in. -/
def update (aggs : List Aggregate) (table : Option String) (acc : Accumulator) (row : Row) :
    Accumulator :=
  ⟨acc.count + 1, (aggs.zip acc.stats).map fun (a, s) =>
    match a.field? with
    | none => s
    | some f =>
      match (row.resolve f table).bind numberOf? with
      | some x => s.add x
      | none => s⟩

/-- The result of one aggregate. -/
def result (acc : Accumulator) (a : Aggregate) (s : Stats) : Value :=
  match a.fn with
  | .count => .number acc.count.toFloat
  | .sum => .number s.sum
  | .avg => if s.seen == 0 || acc.count == 0 then .null else .number (s.sum / acc.count.toFloat)
  | .min => match s.min with
    | some x => .number x
    | none => .null
  | .max => match s.max with
    | some x => .number x
    | none => .null

/-- Writes every aggregate's result into a row under its label. -/
def writeInto (aggs : List Aggregate) (acc : Accumulator) (out : Row) : Row :=
  (aggs.zip acc.stats).foldl (fun r (a, s) => r.insert a.label (acc.result a s)) out

end Accumulator

/-- The accumulator of a list of rows. -/
def accumulate (aggs : List Aggregate) (table : Option String) (rows : List Row) : Accumulator :=
  rows.foldl (Accumulator.update aggs table) (Accumulator.start aggs)

/-- Aggregates every row into one row. -/
def aggregateAll (aggs : List Aggregate) (table : Option String) (rows : List Row) : Row :=
  (accumulate aggs table rows).writeInto aggs Row.empty

/-- The group key of a row. -/
def groupKey (groupBy : List String) (table : Option String) (row : Row) : List Value :=
  groupBy.map fun f => row.resolveOrNull f table

/-- Applies `f` to the accumulator of the group whose key equals `k`, keeping the group's
first key, or opens a group for `k` at the end with `f init`. -/
def upsertGroup (k : List Value) (init : Accumulator) (f : Accumulator → Accumulator) :
    List (List Value × Accumulator) → List (List Value × Accumulator)
  | [] => [(k, f init)]
  | (k', acc) :: rest =>
    if k' == k then (k', f acc) :: rest else (k', acc) :: upsertGroup k init f rest

/-- Folds one row into the group of its key. -/
def foldGrouped (groupBy : List String) (aggs : List Aggregate) (table : Option String)
    (groups : List (List Value × Accumulator)) (row : Row) : List (List Value × Accumulator) :=
  upsertGroup (groupKey groupBy table row) (Accumulator.start aggs)
    (·.update aggs table row) groups

/-- The output row of a group: the group fields bound to the key's values, then the
aggregates. -/
def emitGroup (groupBy : List String) (aggs : List Aggregate) (k : List Value)
    (acc : Accumulator) : Row :=
  acc.writeInto aggs ((groupBy.zip k).foldl (fun r (f, v) => r.insert f v) Row.empty)

/-- One row per group, in order of first appearance. -/
def aggregateGroups (groupBy : List String) (aggs : List Aggregate) (table : Option String)
    (rows : List Row) : List Row :=
  (rows.foldl (foldGrouped groupBy aggs table) []).map fun g => emitGroup groupBy aggs g.1 g.2

end Tabula
