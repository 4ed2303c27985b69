import Tabula.Predicate

/-!
# Batch feeds

The batches an operator hands out, one per pull, ending normally or with an error.
-/

namespace Tabula

/-- The batches an operator hands out, ending normally or with an error. -/
inductive Feed where
  | done
  | fail (e : Error)
  | batch (rows : List Row) (rest : Feed)
deriving Inhabited

namespace Feed

/-- A table scan: the rows in batches of `size` (at least one row each). -/
def scan (size : Nat) (rows : List Row) : Feed :=
  go rows.length rows
where
  /-- Hands out the rows, with fuel for one batch per row. -/
  go (fuel : Nat) (rows : List Row) : Feed :=
    match fuel, rows with
    | _, [] => .done
    | 0, _ => .done
    | fuel + 1, rows => .batch (rows.take (max size 1)) (go fuel (rows.drop (max size 1)))

/-- Every row of a feed, or its error. -/
def drain : Feed → Except Error (List Row)
  | .done => .ok []
  | .fail e => .error e
  | .batch rows rest => (drain rest).map (rows ++ ·)

/-- The feed of a materialized result: one batch, none when it is empty. -/
def ofResult : Except Error (List Row) → Feed
  | .error e => .fail e
  | .ok [] => .done
  | .ok rows => .batch rows .done

/-- The batch sizes of a feed, up to its end. -/
def sizes : Feed → List Nat
  | .done => []
  | .fail _ => []
  | .batch rows rest => rows.length :: sizes rest

/-- Rows that meet every condition (or, with `keep` false, fail one), stopping at the first
error; empty batches are passed over. -/
def filterRows (ps : List Predicate) (table : Option String) (keep : Bool) :
    List Row → Except Error (List Row)
  | [] => .ok []
  | r :: rs =>
    match Predicate.evalAll ps r table with
    | .error e => .error e
    | .ok b => (filterRows ps table keep rs).map fun kept => if b == keep then r :: kept else kept

/-- Filters a feed batch by batch; a batch left empty is passed over. -/
def filter (ps : List Predicate) (table : Option String) (keep : Bool) : Feed → Feed
  | .done => .done
  | .fail e => .fail e
  | .batch rows rest =>
    match filterRows ps table keep rows with
    | .error e => .fail e
    | .ok [] => filter ps table keep rest
    | .ok kept => .batch kept (filter ps table keep rest)

/-- Maps every row of a feed. -/
def map (f : Row → Row) : Feed → Feed
  | .done => .done
  | .fail e => .fail e
  | .batch rows rest => .batch (rows.map f) (map f rest)

/-- Keeps the first row of each distinct list of values; `seen` holds those met so far. -/
def distinct (seen : List (List Value)) : Feed → Feed
  | .done => .done
  | .fail e => .fail e
  | .batch rows rest =>
    let step := rows.foldl (fun (acc : List Row × List (List Value)) r =>
      if acc.2.contains r.values then acc else (acc.1 ++ [r], acc.2 ++ [r.values])) ([], seen)
    if step.1.isEmpty then distinct step.2 rest else .batch step.1 (distinct step.2 rest)

/-- Skips `skip` rows and then passes on at most `remaining` rows (all, when `none`),
pulling no batch once nothing remains. -/
def limit (remaining : Option Nat) (skip : Nat) : Feed → Feed
  | .done => .done
  | .fail e => if remaining == some 0 then .done else .fail e
  | .batch rows rest =>
    if remaining == some 0 then .done
    else if 0 < skip && rows.length ≤ skip then limit remaining (skip - rows.length) rest
    else
      let left := rows.drop skip
      let out := match remaining with
        | none => left
        | some n => left.take n
      .batch out (limit (remaining.map (· - out.length)) (skip - min skip rows.length) rest)

end Feed

end Tabula
