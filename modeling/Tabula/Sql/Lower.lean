import Tabula.Sql.Statement
import Tabula.Query
import Tabula.Text.Blank

/-!
# From statements to descriptions

A SELECT, INSERT or DELETE statement becomes the description the engine runs;
everything outside that part of SQL is refused with the feature named.
-/

namespace Tabula.Sql

open Tabula (Error)

/-- The field reference a name expression stands for, parts joined by dots. -/
def columnName : Expr → Option String
  | .ident i => some i.value
  | .compound ps => some (".".intercalate (ps.map (·.value)))
  | .nested e => columnName e
  | _ => none

/-- A dotted table name as one text. -/
def objectName (ps : List Ident) : String :=
  ".".intercalate (ps.map (·.value))

/-- Whether an expression is a double-quoted name, which stands for a text literal. -/
def isQuotedLiteral : Expr → Bool
  | .ident i => i.quote == some '"'
  | _ => false

/-- The refusal of an expression where a literal is needed. -/
def notAValue (e : Expr) : Error :=
  Error.notSupported ("expression as value: " ++ e.render) "Use a literal value"

/-- The value a literal stands for: numbers and strings as their text, NULL as nothing,
anything else as printed. -/
def Literal.value : Literal → Value
  | .null => .null
  | .number n _ => .text n
  | .single s => .text s
  | .boolean b => .text (if b then "true" else "false")
  | other => .text other.render

/-- The value of a literal expression: a literal's value, a minus sign before a number
kept in the text. -/
def literalValue : Expr → Except Error Value
  | .lit v => .ok v.value
  | e@(.unary op inner) =>
    if op == "-" then
      match inner with
      | .lit (.number n _) => .ok (.text ("-" ++ n))
      | _ => .error (notAValue e)
    else if op == "+" then literalValue inner
    else .error (notAValue e)
  | e@(.ident i) => if i.quote == some '"' then .ok (.text i.value) else .error (notAValue e)
  | .nested inner => literalValue inner
  | e => .error (notAValue e)

/-- The comparison a binary operator stands for. -/
def compareOpOf : BinOp → Except Error CompareOp
  | .eq => .ok .eq
  | .ne => .ok .ne
  | .lt => .ok .lt
  | .le => .ok .le
  | .gt => .ok .gt
  | .ge => .ok .ge
  | op => .error (.unsupportedOperator op.render)

/-- The field a side of a comparison names, if it names one. -/
def fieldOf (e : Expr) : Option String :=
  if isQuotedLiteral e then none else columnName e

/-- The conditions of a WHERE expression, in order. -/
def lowerWhere : Expr → Except Error (List Condition)
  | .nested e => lowerWhere e
  | .binary l .and r => do
    let a ← lowerWhere l
    let b ← lowerWhere r
    pure (a ++ b)
  | .binary _ .or _ =>
    .error (Error.notSupported "OR in WHERE clause" "Only AND-combined comparisons are supported")
  | e@(.binary l op r) => do
    let o ← compareOpOf op
    match fieldOf l with
    | some f => do
      let v ← literalValue r
      pure [⟨f, o, v⟩]
    | none =>
      match fieldOf r with
      | some f => do
        let v ← literalValue l
        pure [⟨f, o.flip, v⟩]
      | none =>
        .error (Error.notSupported ("comparison without a field: " ++ e.render)
          "Compare a field with a literal (e.g. age > 30)")
  | e@(.patternMatch k negated _ target pattern _) =>
    if k == .like || k == .ilike then
      if negated then .error (.unsupportedOperator "NOT LIKE")
      else
        match columnName target with
        | none => .error (Error.notSupported ("LIKE on expression: " ++ target.render) "Use a field name")
        | some f => do
          let v ← literalValue pattern
          pure [⟨f, .like, v⟩]
    else .error (.unsupportedOperator e.render)
  | .isNull target negated =>
    match columnName target with
    | none => .error (Error.notSupported ("IS NULL on expression: " ++ target.render) "Use a field name")
    | some f => .ok [⟨f, if negated then .ne else .eq, .null⟩]
  | e => .error (.unsupportedOperator e.render)

/-- The conditions of an optional WHERE. -/
def planWhere : Option Expr → Except Error (List Condition)
  | some e => lowerWhere e
  | none => .ok []

/-- A non-negative integer written in decimal, below `2 ^ 64`. -/
def readCount? (s : String) : Option Nat :=
  match decimalValue? s with
  | some n => if n < Nat.pow 2 64 then some n else none
  | none => none

/-- The count a LIMIT or OFFSET gives, which must be an integer literal. -/
def extractCount (e : Expr) : Except Error Nat :=
  match e with
  | .lit (.number n _) =>
    match readCount? n with
    | some k => .ok k
    | none => .error (.sqlParse ("LIMIT/OFFSET value must be a non-negative integer, got: " ++ n) e.render)
  | _ => .error (Error.notSupported ("Non-literal LIMIT/OFFSET expression: " ++ e.render) "Use an integer literal")

/-- The table a source names; aliases and anything but a plain name are refused. -/
def planTable : TableFactor → Except Error String
  | .table name _ label =>
    if label.isSome then .error (Error.notSupported "Table aliases" "Qualify fields with the table name instead")
    else .ok (objectName name)
  | _ => .error (Error.notSupported "Complex table expressions" "Use simple table names only")

/-- The kind of a join, with its constraint; the kinds without a description are
refused by name. -/
def planJoinOperator : JoinOp → Except Error (JoinKind × JoinConstraint)
  | .inner c => .ok (.inner, c)
  | .leftOuter c => .ok (.left, c)
  | .rightOuter c => .ok (.right, c)
  | .fullOuter _ => .error (.unsupportedJoinType "FULL")
  | .cross => .error (.unsupportedJoinType "CROSS")
  | .semi _ => .error (.unsupportedJoinType "SEMI")
  | .leftSemi _ => .error (.unsupportedJoinType "LEFTSEMI")
  | .rightSemi _ => .error (.unsupportedJoinType "RIGHTSEMI")
  | .anti _ => .error (.unsupportedJoinType "ANTI")
  | .leftAnti _ => .error (.unsupportedJoinType "LEFTANTI")
  | .rightAnti _ => .error (.unsupportedJoinType "RIGHTANTI")
  | .crossApply => .error (.unsupportedJoinType "CROSSAPPLY")
  | .outerApply => .error (.unsupportedJoinType "OUTERAPPLY")

/-- The two fields a join compares, the main table's first: when the left one belongs
to the joined table and the right one does not, they are swapped. -/
def planJoinCondition (c : JoinConstraint) (joinTable : String) : Except Error (String × String) :=
  match c with
  | .onExpr e =>
    let e := match e with
      | .nested inner => inner
      | other => other
    match e with
    | .binary l .eq r =>
      match columnName l, columnName r with
      | some a, some b =>
        let pre := joinTable ++ "."
        if a.startsWith pre && !b.startsWith pre then .ok (b, a) else .ok (a, b)
      | _, _ => .error (Error.notSupported ("JOIN condition: " ++ e.render) "Compare two fields (e.g., ON a.id = b.id)")
    | _ => .error (Error.notSupported ("JOIN condition: " ++ e.render) "Only single equality conditions are supported")
  | .usingCols _ => .error (Error.notSupported "JOIN USING clause" "Use ON clause instead (e.g., ON a.id = b.id)")
  | _ => .error (Error.notSupported "JOIN without ON condition" "Use ON clause (e.g., ON a.id = b.id)")

/-- The main table and the optional join of a FROM clause. -/
def planFrom (from_ : List TableWithJoins) : Except Error (String × Option JoinSpec) :=
  match from_ with
  | [twj] => do
    let table ← planTable twj.relation
    match twj.joins with
    | [] => pure (table, none)
    | [j] => do
      let jt ← planTable j.relation
      let (kind, c) ← planJoinOperator j.op
      let (l, r) ← planJoinCondition c jt
      pure (table, some ⟨kind, jt, l, r⟩)
    | _ => .error (Error.notSupported "Multi-table joins" "Join at most two tables per query")
  | [] => .error (Error.notSupported "SELECT without FROM" "FROM clause is required")
  | _ => .error (Error.notSupported "Multiple tables in FROM clause" "Use JOIN syntax or separate queries")

/-- The item a select-list entry stands for: a name is a column, anything else is read
from its printed form, which recognises the aggregates. -/
def planItem : SelectItem → Except Error Tabula.SelectItem
  | .wildcard => .ok .wildcard
  | .unnamed e =>
    match columnName e with
    | some n => .ok (.column n)
    | none => .ok (Tabula.SelectItem.parse e.render)
  | .aliased _ _ => .error (Error.notSupported "Column aliases" "Remove the AS alias")
  | .qualifiedWildcard _ => .error (Error.notSupported "Qualified wildcard" "Use * or list the fields")

/-- The description of a SELECT, without its ORDER BY, LIMIT and OFFSET. -/
def planSelectBody (s : Select) : Except Error Tabula.Query := do
  let distinct ← match s.distinct with
    | none => pure false
    | some .plain => pure true
    | some (.on _) => throw (Error.notSupported "DISTINCT ON" "Use plain DISTINCT")
  if s.having.isSome then throw (Error.notSupported "HAVING clause" "Filter with WHERE instead")
  let (table, join) ← planFrom s.from_
  let items ← s.projection.mapM planItem
  let groupBy ← match s.groupBy with
    | .exprs [] _ => pure none
    | .exprs es _ => pure (some (es.map fun e => (columnName e).getD e.render))
    | .all _ => throw (Error.notSupported "GROUP BY ALL" "List the grouping fields")
  let conditions ← planWhere s.selection
  pure { items, table, join, conditions, groupBy, distinct }

/-- The description of a query. -/
def planQuery (q : Query) : Except Error Tabula.Query := do
  if q.ctes.isSome then throw (Error.notSupported "WITH clause" "Subqueries are not supported")
  let d ← match q.body with
    | .select s => planSelectBody s
    | _ => throw (Error.notSupported "Non-SELECT queries" "Only plain SELECT queries are supported")
  let d := match q.orderBy with
    | some items =>
      if items.isEmpty then d
      else { d with orderBy := some (items.map fun o => ⟨(columnName o.e).getD o.e.render, o.asc.getD true⟩) }
    | none => d
  let d ← match q.limit with
    | some e => do
      let n ← extractCount e
      pure { d with limit := some n }
    | none => pure d
  match q.offset with
  | some (e, _) => do
    let n ← extractCount e
    pure { d with offset := n }
  | none => pure d

/-- Reads text that must hold exactly one statement. -/
def parseOne (sql : String) : Except Error Statement :=
  match parseSql sql with
  | .error m => .error (.sqlParse m sql)
  | .ok [s] => .ok s
  | .ok ss => .error (.sqlParse ("expected exactly one statement, found " ++ toString ss.length) sql)

/-- The refusal of a statement of the wrong kind. -/
def wrongStatement (kind sql : String) : Error :=
  .sqlParse ("expected a " ++ kind ++ " statement") sql

/-- The description of a SELECT text. -/
def planSelect (sql : String) : Except Error Tabula.Query := do
  match (← parseOne sql) with
  | .query q => planQuery q
  | _ => throw (wrongStatement "SELECT" sql)

/-- The description of an INSERT text: one row of literals for named columns. -/
def planInsert (sql : String) : Except Error Insertion := do
  match (← parseOne sql) with
  | .insert table cols source =>
    let columns := cols.map (·.value)
    if columns.isEmpty then
      throw (Error.notSupported "INSERT without a column list" "Name the columns: INSERT INTO t (a, b) VALUES (...)")
    let rows ← match source with
      | some q =>
        match q.body with
        | .values _ rows => pure rows
        | _ => throw (Error.notSupported "INSERT with SELECT" "Only INSERT INTO ... VALUES (...) is supported")
      | none => throw (Error.notSupported "INSERT without VALUES" "INSERT INTO ... VALUES (...) is required")
    match rows with
    | [row] => do
      let values ← row.mapM literalValue
      if values.length != columns.length then
        throw (.sqlParse ("INSERT has " ++ toString columns.length ++ " columns but " ++
          toString values.length ++ " values") sql)
      pure ⟨objectName table, columns, values⟩
    | _ => throw (Error.notSupported "multi-row INSERT" "Insert one row per statement")
  | _ => throw (wrongStatement "INSERT" sql)

/-- The description of a DELETE text: one table and its conditions. -/
def planDelete (sql : String) : Except Error Deletion := do
  match (← parseOne sql) with
  | .delete from_ selection =>
    match from_ with
    | [t] => do
      if !t.joins.isEmpty then throw (Error.notSupported "DELETE with JOIN" "Delete from one table")
      let table ← planTable t.relation
      let conds ← planWhere selection
      pure ⟨table, conds⟩
    | _ => throw (Error.notSupported "DELETE from several tables" "Delete from one table per statement")
  | _ => throw (wrongStatement "DELETE" sql)

/-- The kinds of statement the engine runs. -/
inductive StatementKind where
  | select
  | insert
  | delete
deriving Repr, DecidableEq, Inhabited

/-- The kind of a statement by its first word, in any ASCII case; `none` for any other
first word or for blank text. -/
def StatementKind.detect (sql : String) : Option StatementKind :=
  match Text.words sql with
  | w :: _ =>
    let u := Text.toUpperAscii w
    if u == "SELECT" then some .select
    else if u == "INSERT" then some .insert
    else if u == "DELETE" then some .delete
    else none
  | [] => none

/-- The name of a statement kind. -/
def StatementKind.name : StatementKind → String
  | .select => "SELECT"
  | .insert => "INSERT"
  | .delete => "DELETE"

end Tabula.Sql
