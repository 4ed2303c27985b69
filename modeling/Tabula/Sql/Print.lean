import Tabula.Sql.Syntax

/-!
# Printing SQL syntax
-/

namespace Tabula.Sql

/-- Doubles every occurrence of a quote character. -/
def doubleQuote (q : Char) (s : String) : String :=
  String.ofList (s.toList.flatMap fun c => if c == q then [c, c] else [c])

/-- A name part as printed. -/
def Ident.render (i : Ident) : String :=
  match i.quote with
  | some q =>
    if q == '[' then "[" ++ i.value ++ "]"
    else String.ofList [q] ++ doubleQuote q i.value ++ String.ofList [q]
  | none => i.value

/-- A dotted name as printed. -/
def renderName (parts : List Ident) : String :=
  ".".intercalate (parts.map Ident.render)

/-- Items separated by a comma and a blank. -/
def commaList (xs : List String) : String :=
  ", ".intercalate xs

/-- The body of an escaped string literal with its special characters escaped again. -/
def escapeEscaped (s : String) : String :=
  String.ofList (s.toList.flatMap fun c =>
    if c == '\'' then ['\\', '\'']
    else if c == '\\' then ['\\', '\\']
    else if c == '\n' then ['\\', 'n']
    else if c == '\t' then ['\\', 't']
    else if c == '\r' then ['\\', 'r']
    else [c])

/-- A literal as printed. -/
def Literal.render : Literal → String
  | .number t l => t ++ (if l then "L" else "")
  | .single s => "'" ++ doubleQuote '\'' s ++ "'"
  | .national s => "N'" ++ s ++ "'"
  | .escaped s => "E'" ++ escapeEscaped s ++ "'"
  | .unicode s => "U&'" ++ doubleQuote '\'' s ++ "'"
  | .hex s => "X'" ++ s ++ "'"
  | .byteSingle s => "B'" ++ s ++ "'"
  | .byteDouble s => "B\"" ++ s ++ "\""
  | .rawSingle s => "R'" ++ s ++ "'"
  | .rawDouble s => "R\"" ++ s ++ "\""
  | .dollar s => s
  | .boolean b => if b then "true" else "false"
  | .null => "NULL"
  | .placeholder s => s

/-- A binary operator as printed. -/
def BinOp.render : BinOp → String
  | .eq => "="
  | .ne => "<>"
  | .lt => "<"
  | .le => "<="
  | .gt => ">"
  | .ge => ">="
  | .and => "AND"
  | .or => "OR"
  | .other s => s

/-- The text of `NOT ` when negated. -/
def notText (negated : Bool) : String := if negated then "NOT " else ""

/-- An expression as printed. -/
def Expr.render : Expr → String
  | .ident i => i.render
  | .compound ps => renderName ps
  | .wildcard => "*"
  | .qualifiedWildcard ps => renderName ps ++ ".*"
  | .lit v => v.render
  | .nested e => "(" ++ e.render ++ ")"
  | .unary op e => if op == "NOT" then op ++ " " ++ e.render else op ++ e.render
  | .binary l op r => l.render ++ " " ++ op.render ++ " " ++ r.render
  | .isNull e neg => e.render ++ (if neg then " IS NOT NULL" else " IS NULL")
  | .patternMatch k neg any e p esc =>
    let escText := match esc with
      | some c => " ESCAPE '" ++ c ++ "'"
      | none => ""
    match k with
    | .like => e.render ++ " " ++ notText neg ++ "LIKE " ++ (if any then "ANY " else "") ++ p.render ++ escText
    | .ilike => e.render ++ " " ++ notText neg ++ "ILIKE " ++ (if any then "ANY " else "") ++ p.render ++ escText
    | .similar => e.render ++ " " ++ notText neg ++ "SIMILAR TO " ++ p.render ++ escText
    | .regexp => e.render ++ " " ++ notText neg ++ "REGEXP " ++ p.render
    | .rlike => e.render ++ " " ++ notText neg ++ "RLIKE " ++ p.render
  | .subquery t => "(" ++ t ++ ")"
  | .printed t => t

/-- Expressions separated by commas. -/
def renderExprs (es : List Expr) : String :=
  commaList (es.map Expr.render)

/-- An ORDER BY item as printed. -/
def OrderItem.render (o : OrderItem) : String :=
  o.e.render ++
    (match o.asc with
      | some true => " ASC"
      | some false => " DESC"
      | none => "") ++
    (match o.nullsFirst with
      | some true => " NULLS FIRST"
      | some false => " NULLS LAST"
      | none => "")

/-- A table alias as printed. -/
def TableAlias.render (a : TableAlias) : String :=
  a.name.render ++ (if a.columns.isEmpty then "" else "(" ++ commaList (a.columns.map Ident.render) ++ ")")

/-- The ` AS alias` suffix of a source. -/
def aliasSuffix : Option TableAlias → String
  | some a => " AS " ++ a.render
  | none => ""

/-- A source as printed. -/
def TableFactor.render : TableFactor → String
  | .table name args label => renderName name ++ args.getD "" ++ aliasSuffix label
  | .derived lateral q label => (if lateral then "LATERAL " else "") ++ "(" ++ q ++ ")" ++ aliasSuffix label
  | .nestedJoin t => t
  | .printed t => t

/-- What a constraint adds before the join keyword. -/
def JoinConstraint.prefixText : JoinConstraint → String
  | .natural => "NATURAL "
  | _ => ""

/-- What a constraint adds after the joined source. -/
def JoinConstraint.suffixText : JoinConstraint → String
  | .onExpr e => " ON " ++ e.render
  | .usingCols cs => " USING(" ++ commaList cs ++ ")"
  | _ => ""

/-- A join as printed, with its leading blank. -/
def Join.render (j : Join) : String :=
  let g := if j.global then " GLOBAL" else ""
  let r := j.relation.render
  let with_ (kw : String) (c : JoinConstraint) := " " ++ c.prefixText ++ kw ++ " " ++ r ++ c.suffixText
  g ++ match j.op with
  | .inner c => with_ "JOIN" c
  | .leftOuter c => with_ "LEFT JOIN" c
  | .rightOuter c => with_ "RIGHT JOIN" c
  | .fullOuter c => with_ "FULL JOIN" c
  | .cross => " CROSS JOIN " ++ r
  | .semi c => with_ "SEMI JOIN" c
  | .leftSemi c => with_ "LEFT SEMI JOIN" c
  | .rightSemi c => with_ "RIGHT SEMI JOIN" c
  | .anti c => with_ "ANTI JOIN" c
  | .leftAnti c => with_ "LEFT ANTI JOIN" c
  | .rightAnti c => with_ "RIGHT ANTI JOIN" c
  | .crossApply => " CROSS APPLY " ++ r
  | .outerApply => " OUTER APPLY " ++ r

/-- A source with its joins as printed. -/
def TableWithJoins.render (t : TableWithJoins) : String :=
  t.relation.render ++ String.join (t.joins.map Join.render)

/-- A select-list item as printed. -/
def SelectItem.render : SelectItem → String
  | .unnamed e => e.render
  | .aliased e a => e.render ++ " AS " ++ a.render
  | .wildcard => "*"
  | .qualifiedWildcard ps => renderName ps ++ ".*"

/-- Modifiers after a GROUP BY. -/
def modifiersText (ms : List String) : String :=
  if ms.isEmpty then "" else " " ++ " ".intercalate ms

/-- A SELECT as printed. -/
def Select.render (s : Select) : String :=
  "SELECT" ++
    (match s.distinct with
      | some .plain => " DISTINCT"
      | some (.on es) => " DISTINCT ON (" ++ renderExprs es ++ ")"
      | none => "") ++
    (match s.top with
      | some t => " " ++ t
      | none => "") ++
    " " ++ commaList (s.projection.map SelectItem.render) ++
    (if s.from_.isEmpty then "" else " FROM " ++ commaList (s.from_.map TableWithJoins.render)) ++
    (match s.selection with
      | some e => " WHERE " ++ e.render
      | none => "") ++
    (match s.groupBy with
      | .all ms => " GROUP BY ALL" ++ modifiersText ms
      | .exprs [] _ => ""
      | .exprs es ms => " GROUP BY " ++ renderExprs es ++ modifiersText ms) ++
    (match s.having with
      | some e => " HAVING " ++ e.render
      | none => "")

/-- A query body as printed. -/
def Body.render : Body → String
  | .select s => s.render
  | .values explicitRow rows =>
    "VALUES " ++ commaList (rows.map fun r => (if explicitRow then "ROW" else "") ++ "(" ++ renderExprs r ++ ")")
  | .printed t => t

/-- A query as printed. -/
def Query.render (q : Query) : String :=
  (match q.ctes with
    | some w => w ++ " "
    | none => "") ++
  q.body.render ++
  (match q.orderBy with
    | some [] => " ORDER BY"
    | some items => " ORDER BY " ++ commaList (items.map OrderItem.render)
    | none => "") ++
  (match q.limit with
    | some e => " LIMIT " ++ e.render
    | none => "") ++
  (match q.offset with
    | some (e, rows) => " OFFSET " ++ e.render ++ rows
    | none => "") ++
  (if q.limitBy.isEmpty then "" else " BY " ++ renderExprs q.limitBy) ++
  (match q.fetch with
    | some f => " " ++ f
    | none => "")

end Tabula.Sql
