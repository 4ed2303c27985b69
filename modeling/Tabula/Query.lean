import Tabula.Row
import Tabula.Error
import Tabula.Text.Blank
import Tabula.Text.Case
import Tabula.Text.Letter

/-!
# Query descriptions

What a SELECT, an INSERT and a DELETE ask for, independent of SQL text.
-/

namespace Tabula

open Text

/-- The comparison of a condition. -/
inductive CompareOp where
  | eq | ne | gt | lt | ge | le | like
deriving Repr, DecidableEq, Inhabited

namespace CompareOp

/-- Reads an operator, ignoring case and surrounding blanks; `<>` is `!=`. -/
def parse (op : String) : Except Error CompareOp :=
  match toUpper (trim op) with
  | "=" => .ok .eq
  | "!=" | "<>" => .ok .ne
  | ">" => .ok .gt
  | "<" => .ok .lt
  | ">=" => .ok .ge
  | "<=" => .ok .le
  | "LIKE" => .ok .like
  | _ => .error (.unsupportedOperator (trim op))

/-- The symbol of an operator. -/
def symbol : CompareOp → String
  | .eq => "="
  | .ne => "!="
  | .gt => ">"
  | .lt => "<"
  | .ge => ">="
  | .le => "<="
  | .like => "LIKE"

/-- The operator with its sides exchanged: `a < b` is `b > a`. -/
def flip : CompareOp → CompareOp
  | .gt => .lt
  | .lt => .gt
  | .ge => .le
  | .le => .ge
  | op => op

end CompareOp

/-- The kind of a join. -/
inductive JoinKind where
  | inner | left | right
deriving Repr, DecidableEq, Inhabited

namespace JoinKind

/-- Reads a join kind, ignoring case and surrounding blanks. -/
def parse (kind : String) : Except Error JoinKind :=
  match toUpper (trim kind) with
  | "INNER" => .ok .inner
  | "LEFT" => .ok .left
  | "RIGHT" => .ok .right
  | other => .error (.unsupportedJoinType other)

/-- The name of a join kind. -/
def name : JoinKind → String
  | .inner => "INNER"
  | .left => "LEFT"
  | .right => "RIGHT"

end JoinKind

/-- An aggregate function. -/
inductive AggregateFn where
  | count | sum | avg | min | max
deriving Repr, DecidableEq, Inhabited

namespace AggregateFn

/-- Reads a function name in any case. -/
def ofName? (name : String) : Option AggregateFn :=
  match toUpper name with
  | "COUNT" => some .count
  | "SUM" => some .sum
  | "AVG" => some .avg
  | "MIN" => some .min
  | "MAX" => some .max
  | _ => none

/-- The name of a function. -/
def name : AggregateFn → String
  | .count => "COUNT"
  | .sum => "SUM"
  | .avg => "AVG"
  | .min => "MIN"
  | .max => "MAX"

end AggregateFn

/-- The argument of an aggregate: every row, or one field. -/
inductive AggregateArg where
  | star
  | field (name : String)
deriving Repr, DecidableEq, Inhabited

/-- An aggregate of the select list, labelled by its text. -/
structure Aggregate where
  fn : AggregateFn
  arg : AggregateArg
  label : String
deriving Repr, DecidableEq, Inhabited

namespace Aggregate

/-- A character that may stand in an aggregate's field argument. -/
def isArgChar (c : Char) : Bool :=
  isAlphanumeric c || c == '_' || c == '.'

/-- Reads an aggregate from select-list text (see the module note). -/
def parse? (text : String) : Option Aggregate :=
  let t := trim text
  let cs := t.toList
  match cs.span (· != '(') with
  | (_, []) => none
  | (pre, _ :: rest) =>
    match rest.getLast? with
    | some ')' =>
      let inner := trim (String.ofList rest.dropLast)
      match AggregateFn.ofName? (trim (String.ofList pre)) with
      | none => none
      | some fn =>
        if inner == "*" then
          if fn == .count then some ⟨fn, .star, t⟩ else none
        else if !inner.isEmpty && inner.toList.all isArgChar then some ⟨fn, .field inner, t⟩
        else none
    | _ => none

/-- The field an aggregate reads, if any. -/
def field? (a : Aggregate) : Option String :=
  match a.arg with
  | .star => none
  | .field f => some f

end Aggregate

/-- An item of the select list. -/
inductive SelectItem where
  | wildcard
  | column (name : String)
  | aggregate (a : Aggregate)
deriving Repr, DecidableEq, Inhabited

namespace SelectItem

/-- Reads a select-list item from its text (see the module note). -/
def parse (text : String) : SelectItem :=
  let t := trim text
  if t == "*" then .wildcard
  else match Aggregate.parse? t with
    | some a => .aggregate a
    | none => .column t

/-- The label of an item: `*`, the column reference, or the aggregate's text. -/
def label : SelectItem → String
  | .wildcard => "*"
  | .column n => n
  | .aggregate a => a.label

end SelectItem

/-- A condition `field op value` of a WHERE list. -/
structure Condition where
  field : String
  op : CompareOp
  value : Value
deriving Inhabited

/-- Builds a condition, reading its operator. -/
def Condition.make (field op : String) (value : Value) : Except Error Condition :=
  (CompareOp.parse op).map fun o => ⟨field, o, value⟩

/-- A sort key: a field reference, ascending or descending. -/
structure SortKey where
  field : String
  asc : Bool
deriving Repr, DecidableEq, Inhabited

/-- A join of one more table on the equality of two field references. -/
structure JoinSpec where
  kind : JoinKind
  table : String
  left : String
  right : String
deriving Repr, DecidableEq, Inhabited

/-- A SELECT as a description. -/
structure Query where
  items : List SelectItem
  table : String
  join : Option JoinSpec := none
  conditions : List Condition := []
  groupBy : Option (List String) := none
  orderBy : Option (List SortKey) := none
  limit : Option Nat := none
  offset : Nat := 0
  distinct : Bool := false
deriving Inhabited

namespace Query

/-- The aggregates of the select list, in order. -/
def aggregates (q : Query) : List Aggregate :=
  q.items.filterMap fun
    | .aggregate a => some a
    | _ => none

/-- Whether the select list holds an aggregate. -/
def hasAggregates (q : Query) : Bool :=
  q.items.any fun
    | .aggregate _ => true
    | _ => false

/-- Aggregates without grouping: the query yields one row over all input. -/
def isGlobalAggregate (q : Query) : Bool :=
  q.groupBy.isNone && q.hasAggregates

/-- Whether the select list holds the wildcard. -/
def hasWildcard (q : Query) : Bool :=
  q.items.any fun
    | .wildcard => true
    | _ => false

/-- The labels of the select list. -/
def labels (q : Query) : List String :=
  q.items.map SelectItem.label

/-- Appends a name unless it is already present. -/
def pushNew (acc : List String) (n : String) : List String :=
  if acc.contains n then acc else acc ++ [n]

/-- The field references a join must carry into its rows, each once: selected
columns and aggregate arguments, then the grouping, sorting and condition fields. -/
def joinFields (q : Query) : List String :=
  let fromItems := q.items.filterMap fun
    | .column n => some n
    | .aggregate a => a.field?
    | .wildcard => none
  let all := fromItems ++ q.groupBy.getD [] ++ (q.orderBy.getD []).map (·.field) ++
    q.conditions.map (·.field)
  all.foldl pushNew []

end Query

/-- An INSERT as a description. -/
structure Insertion where
  table : String
  columns : List String
  values : List Value
deriving Inhabited

/-- A DELETE as a description: the rows that meet every condition are removed. -/
structure Deletion where
  table : String
  conditions : List Condition
deriving Inhabited

end Tabula
