import Tabula.Feed
import Tabula.Relation.Join
import Tabula.Relation.Aggregate
import Tabula.Relation.Order
import Tabula.Relation.Project

/-!
# Operator plans

A SELECT runs as a chain of operators over a scan of its table; a DELETE as a scan
through a filter.
-/

namespace Tabula

namespace Plan

/-- The batch size of a plan: at least one row. -/
def batchSize (size : Nat) : Nat := max size 1

/-- Sorts a feed when the query orders its rows. -/
def sortFeed (q : Query) (f : Feed) : Feed :=
  match q.orderBy with
  | some keys@(_ :: _) => Feed.ofResult ((f.drain).map (sortRows keys (some q.table)))
  | _ => f

/-- Applies the query's LIMIT and OFFSET when it has either. -/
def limitFeed (q : Query) (f : Feed) : Feed :=
  if q.limit.isNone && q.offset == 0 then f else Feed.limit q.limit q.offset f

/-- The join context of a query's join. -/
def joinContext (q : Query) (j : JoinSpec) : JoinContext :=
  { mainTable := q.table, joinTable := j.table, left := j.left, right := j.right,
    fields := q.joinFields, wildcard := q.hasWildcard }

/-- The tables a wildcard is limited to: both tables of a join, else none, which stands
for every field. -/
def wildcardTables (q : Query) : List String :=
  match q.join with
  | none => []
  | some j => [q.table, j.table]

/-- The rows a SELECT reads: a scan of its table, or the join of the scans of both tables
(missing joined rows count as an empty table). -/
def source (size : Nat) (q : Query) (main : List Row) (joined : Option (List Row)) : Feed :=
  let scanned := Feed.scan (batchSize size) main
  match q.join with
  | none => scanned
  | some j =>
    let right := Feed.scan (batchSize size) (joined.getD [])
    Feed.ofResult do
      let m ← scanned.drain
      let r ← right.drain
      joinRows j.kind (joinContext q j) m r

/-- The rows read that meet the conditions, batch by batch. -/
def filtered (size : Nat) (q : Query) (main : List Row) (joined : Option (List Row)) : Feed :=
  let input := source size q main joined
  if q.conditions.isEmpty then input
  else Feed.filter (q.conditions.map Predicate.compile) (some q.table) true input

/-- Projects a feed onto the select list, dropping repeated rows under DISTINCT. -/
def project (q : Query) (f : Feed) : Feed :=
  let projected :=
    if projectsIdentity q.items (wildcardTables q) then f
    else Feed.map (projectRow q.items (some q.table) (wildcardTables q)) f
  if q.distinct then Feed.distinct [] projected else projected

/-- The rows a SELECT hands out, batch by batch. -/
def select (size : Nat) (q : Query) (main : List Row) (joined : Option (List Row)) : Feed :=
  let table := some q.table
  let filtered := filtered size q main joined
  if q.isGlobalAggregate then
    Feed.ofResult ((filtered.drain).map fun rows => [aggregateAll q.aggregates table rows])
  else match q.groupBy with
    | some groupBy =>
      let grouped := Feed.ofResult ((filtered.drain).map fun rows =>
        if groupBy.isEmpty then [aggregateAll q.aggregates table rows]
        else aggregateGroups groupBy q.aggregates table rows)
      limitFeed q (sortFeed q grouped)
    | none => limitFeed q (project q (sortFeed q filtered))

/-- The rows a DELETE keeps, batch by batch. -/
def delete (size : Nat) (d : Deletion) (rows : List Row) : Feed :=
  Feed.filter (d.conditions.map Predicate.compile) (some d.table) false
    (Feed.scan (batchSize size) rows)

end Plan

end Tabula
