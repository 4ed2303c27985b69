import Tabula.Sql.Atom
import Tabula.Sql.Lexer

/-!
# Reading queries and expressions

Recursive descent, with expressions read by precedence climbing. Each function takes
one unit of fuel per call, and the reader starts with more than any text can use.
-/

namespace Tabula.Sql

/-- The failure when fuel runs out, which the starting fuel rules out. -/
def outOfFuel {α : Type} : Reader α := throw .recursion

/-- Items read while `more` says to go on, at least one; `fuel` bounds their number. -/
def repeatWhile {α : Type} (item : Reader α) (more : Reader Bool) : Nat → Reader (List α)
  | 0 => pure []
  | fuel + 1 => do
    let x ← item
    if (← more) then
      let rest ← repeatWhile item more fuel
      pure (x :: rest)
    else pure [x]

/-- Takes the two symbols in order if both come next, and otherwise nothing. -/
def consumeBoth (a b : String) : Reader Bool := do
  let saved ← get
  if (← consume a) then
    if (← consume b) then pure true
    else
      set saved
      pure false
  else pure false

/-- Whether a binary operator is a comparison. -/
def BinOp.isComparison : BinOp → Bool
  | .eq | .ne | .lt | .le | .gt | .ge => true
  | _ => false

/-- The symbols that are binary operators, other than the comparisons. -/
def otherOperators : List String :=
  ["<=>", "+", "-", "*", "%", "||", "|", "^", "&", "/", "//", "<<", ">>", "&&", "^@", "~", "~*",
   "!~", "!~*", "~~", "~~*", "!~~", "!~~*", "->", "->>", "#>", "#>>", "@>", "<@", "#-", "@?", "@@"]

/-- The binary operator a token stands for, if any. -/
def binaryOpOf : Tok → Option BinOp
  | .sym s =>
    if s == "=" || s == "==" then some .eq
    else if s == "<>" then some .ne
    else if s == "<" then some .lt
    else if s == "<=" then some .le
    else if s == ">" then some .gt
    else if s == ">=" then some .ge
    else if otherOperators.contains s then some (.other s)
    else none
  | .word _ none u =>
    if u == "AND" then some .and
    else if u == "OR" then some .or
    else if u == "XOR" || u == "DIV" then some (.other u)
    else none
  | _ => none

/-- How tightly a symbol binds as an infix operator; zero when it is none. -/
def symbolPrecedence (s : String) : Nat :=
  if ["=", "<", "<=", "<>", ">", ">=", "==", "~", "~*", "!~", "!~*", "~~", "~~*", "!~~", "!~~*",
      "<=>"].contains s then 20
  else if s == "|" then 21
  else if ["^", "#", ">>", "<<"].contains s then 22
  else if s == "&" then 23
  else if s == "+" || s == "-" then 30
  else if ["*", "/", "//", "%", "||"].contains s then 40
  else if ["::", "!", "[", "&&", "^@"].contains s then 50
  else if ["->", "->>", "#>", "#>>", "@>", "<@", "#-", "@?", "@@"].contains s then 16
  else 0

/-- How tightly the next token binds as an infix operator; zero when it is none. -/
def nextPrecedence : Reader Nat := do
  let t := (← peek).1
  match t with
  | .word _ none u =>
    if u == "OR" then pure 5
    else if u == "AND" then pure 10
    else if u == "XOR" then pure 24
    else if u == "AT" then do
      let a := (← peekAt 1).1
      let b := (← peekAt 2).1
      pure (if a.isKw "TIME" && b.isKw "ZONE" then 41 else 0)
    else if u == "NOT" then do
      let a := (← peekAt 1).1
      if a.isKw "IN" || a.isKw "BETWEEN" then pure 20
      else if a.isKw "LIKE" || a.isKw "ILIKE" || a.isKw "RLIKE" || a.isKw "REGEXP" || a.isKw "SIMILAR" then pure 19
      else pure 0
    else if u == "IS" then pure 17
    else if u == "IN" || u == "BETWEEN" || u == "OPERATOR" then pure 20
    else if ["LIKE", "ILIKE", "RLIKE", "REGEXP", "SIMILAR"].contains u then pure 19
    else if u == "DIV" then pure 40
    else pure 0
  | .sym s => pure (symbolPrecedence s)
  | _ => pure 0

/-- The name a token has in the message about a missing infix reader. -/
def tokenName : Tok → String
  | .sym "#" => "Sharp"
  | .sym "!" => "ExclamationMark"
  | t => t.render

/-- Fails saying that a token cannot continue an expression. -/
def noInfix {α : Type} (t : Located) : Reader α :=
  failWith ("No infix parser for token " ++ tokenName t.1 ++ t.2.suffix)

/-- Takes an optional IGNORE NULLS or RESPECT NULLS. -/
def parseNullTreatment : Reader String := do
  match (← parseOneOf ["RESPECT", "IGNORE"]) with
  | some k =>
    expectKeyword "NULLS"
    pure (k ++ " NULLS")
  | none => pure ""

/-- The date and time fields known by name. -/
def dateTimeFields : List String :=
  ["YEAR", "YEARS", "MONTH", "MONTHS", "WEEK", "WEEKS", "DAY", "DAYOFWEEK", "DAYOFYEAR", "DAYS",
   "DATE", "DATETIME", "HOUR", "HOURS", "MINUTE", "MINUTES", "SECOND", "SECONDS", "CENTURY",
   "DECADE", "DOY", "DOW", "EPOCH", "ISODOW", "ISOYEAR", "ISOWEEK", "JULIAN", "MICROSECOND",
   "MICROSECONDS", "MILLENIUM", "MILLENNIUM", "MILLISECOND", "MILLISECONDS", "NANOSECOND",
   "NANOSECONDS", "QUARTER", "TIME", "TIMEZONE", "TIMEZONE_ABBR", "TIMEZONE_HOUR",
   "TIMEZONE_MINUTE", "TIMEZONE_REGION"]

/-- The units that may follow an interval's value. -/
def temporalUnits : List String :=
  ["YEAR", "YEARS", "MONTH", "MONTHS", "WEEK", "WEEKS", "DAY", "DAYS", "DATE", "DATETIME", "HOUR",
   "HOURS", "MINUTE", "MINUTES", "SECOND", "SECONDS", "CENTURY", "DECADE", "DOW", "DOY", "EPOCH",
   "ISODOW", "ISOYEAR", "ISOWEEK", "JULIAN", "MICROSECOND", "MICROSECONDS", "MILLENIUM",
   "MILLENNIUM", "MILLISECOND", "MILLISECONDS", "NANOSECOND", "NANOSECONDS", "QUARTER",
   "TIMEZONE", "TIMEZONE_HOUR", "TIMEZONE_MINUTE"]

/-- Takes a date or time field, such as `YEAR` or a name of the user's. -/
def parseDateTimeField : Reader String := do
  let t ← advance
  match t.1 with
  | .word v q u =>
    if q.isNone && u == "WEEK" then
      if (← consume "(") then
        let d ← parseIdentifier
        expectSym ")"
        pure ("WEEK(" ++ d.render ++ ")")
      else pure "WEEK"
    else if q.isNone && dateTimeFields.contains u then pure u
    else pure (Ident.mk v q).render
  | .str .single s => pure (Ident.mk s (some '\'')).render
  | _ => expected "date/time field" t

/-- Takes a parenthesised precision and an optional scale, when present. -/
def parsePrecisionScale : Reader (Option Nat × Option Nat) := do
  if (← consume "(") then
    let p ← parseLiteralUint
    let s ← if (← consume ",") then do
      let s ← parseLiteralUint
      pure (some s)
    else pure none
    expectSym ")"
    pure (some p, s)
  else pure (none, none)

/-- Takes the rest of a dotted name after its first part, for an expression. -/
def dottedParts (parts : List Ident) : Nat → Reader (List Ident)
  | 0 => pure parts
  | fuel + 1 => do
    if (← consume ".") then
      let t ← advance
      match t.1 with
      | .word v q _ => dottedParts (parts ++ [⟨v, q⟩]) fuel
      | .sym "*" => expected "an identifier after '.'" t
      | .str .single s => dottedParts (parts ++ [⟨s, some '\''⟩]) fuel
      | _ => expected "an identifier or a '*' after '.'" t
    else pure parts

/-- Takes the rest of a dotted name that may end in `.*`, for a select item; `none`
when it does not end so. -/
def qualifiedStar (parts : List Ident) : Nat → Reader (Option Expr)
  | 0 => pure none
  | fuel + 1 => do
    if (← consume ".") then
      let t ← advance
      match t.1 with
      | .word v q _ => qualifiedStar (parts ++ [⟨v, q⟩]) fuel
      | .sym "*" => pure (some (.qualifiedWildcard parts))
      | _ => expected "an identifier or a '*' after '.'" t
    else pure none

/-- Takes the modifiers after a GROUP BY: WITH ROLLUP, WITH CUBE or WITH TOTALS. -/
def groupModifiers : Nat → Reader (List String)
  | 0 => pure []
  | fuel + 1 => do
    if (← parseKeyword "WITH") then
      let k ← expectOneOf ["ROLLUP", "CUBE", "TOTALS"]
      let rest ← groupModifiers fuel
      pure (("WITH " ++ k) :: rest)
    else pure []

/-- Takes the quantifier after a set operator. -/
def parseSetQuantifier : Reader String := do
  if (← parseKeywords ["DISTINCT", "BY", "NAME"]) then pure " DISTINCT BY NAME"
  else if (← parseKeywords ["BY", "NAME"]) then pure " BY NAME"
  else if (← parseKeyword "ALL") then
    if (← parseKeywords ["BY", "NAME"]) then pure " ALL BY NAME" else pure " ALL"
  else if (← parseKeyword "DISTINCT") then pure " DISTINCT"
  else pure ""

/-- Takes the name after `TABLE` in a query body, always taking three tokens. -/
def parseTableBody : Reader Body := do
  let t1 ← advance
  let t2 ← advance
  let t3 ← advance
  if t2.1.isSym "." then
    match t1.1 with
    | .word s _ _ =>
      match t3.1 with
      | .word n _ _ => pure (.printed ("TABLE " ++ s ++ "." ++ n))
      | _ => expected "Table name" t3
    | _ => expected "Schema name" t1
  else
    match t1.1 with
    | .word n _ _ => pure (.printed ("TABLE " ++ n))
    | _ => expected "Table name" t1

/-- Takes a FETCH clause after the keyword. -/
def parseFetch : Reader String := do
  let _ ← expectOneOf ["FIRST", "NEXT"]
  let quantity ← if (← parseOneOf ["ROW", "ROWS"]).isSome then pure none else do
    let v ← parseValue
    let percent ← parseKeyword "PERCENT"
    let _ ← expectOneOf ["ROW", "ROWS"]
    pure (some (v.render ++ (if percent then " PERCENT" else "")))
  let ext ← if (← parseKeyword "ONLY") then pure "ONLY"
    else if (← parseKeywords ["WITH", "TIES"]) then pure "WITH TIES"
    else expected "one of ONLY or WITH TIES" (← peek)
  match quantity with
  | some q => pure ("FETCH FIRST " ++ q ++ " ROWS " ++ ext)
  | none => pure ("FETCH FIRST ROWS " ++ ext)

/-- Takes the locking clauses `FOR UPDATE` and `FOR SHARE`. -/
def parseLocks : Nat → Reader (List String)
  | 0 => pure []
  | fuel + 1 => do
    if (← parseKeyword "FOR") then
      let k ← expectOneOf ["UPDATE", "SHARE"]
      let of ← if (← parseKeyword "OF") then do
        let n ← parseObjectName
        pure (" OF " ++ renderName n)
      else pure ""
      let nb ← if (← parseKeyword "NOWAIT") then pure " NOWAIT"
        else if (← parseKeywords ["SKIP", "LOCKED"]) then pure " SKIP LOCKED"
        else pure ""
      let rest ← parseLocks fuel
      pure (("FOR " ++ k ++ of ++ nb) :: rest)
    else pure []

/-- A select item's expression as printed; `*` and `t.*` included. -/
def argText (e : Expr) : String := e.render

/-- An optional expression as printed, or nothing. -/
def optText : Option Expr → String
  | some e => e.render
  | none => ""

/-- Takes an optional ESCAPE of a pattern match. -/
def parseEscape : Nat → Reader (Option String)
  | 0 => outOfFuel
  | _ + 1 => do
    if (← parseKeyword "ESCAPE") then do
      let s ← parseLiteralString
      pure (some s)
    else pure none

mutual

/-- Takes a query: an optional WITH, a body, ORDER BY, LIMIT and OFFSET, and the rest. -/
def parseQuery : Nat → Reader Query
  | 0 => outOfFuel
  | n + 1 => descend do
    let ctes ← if (← parseKeyword "WITH") then do
        let recursive ← parseKeyword "RECURSIVE"
        let cs ← commaSep (parseCte n)
        pure (some ("WITH " ++ (if recursive then "RECURSIVE " else "") ++ commaList cs))
      else pure none
    let body ← parseQueryBody n 0
    let orderBy ← if (← parseKeywords ["ORDER", "BY"]) then do
        let items ← commaSep (parseOrderByExpr n)
        pure (some items)
      else pure none
    let (limit, offset) ← parseLimitOffset n 2 none none
    let limitBy ← if (← parseKeyword "BY") then commaSep (parseExpr n) else pure []
    let fetch ← if (← parseKeyword "FETCH") then do
        let f ← parseFetch
        pure [f]
      else pure []
    let locks ← parseLocks (← remaining)
    let format ← if (← parseKeyword "FORMAT") then do
        if (← parseKeyword "NULL") then pure ["FORMAT NULL"]
        else do
          let i ← parseIdentifier
          pure ["FORMAT " ++ i.render]
      else pure []
    let tail := fetch ++ locks ++ format
    pure { ctes, body, orderBy, limit, offset, limitBy,
           fetch := if tail.isEmpty then none else some (" ".intercalate tail) }
termination_by structural n => n

/-- Takes the LIMIT and OFFSET clauses in either order, and `LIMIT a, b`. -/
def parseLimitOffset : Nat → Nat → Option Expr → Option (Expr × String) →
    Reader (Option Expr × Option (Expr × String))
  | 0, _, l, o => pure (l, o)
  | _, 0, l, o => pure (l, o)
  | n + 1, k + 1, l, o => do
    let l ← if l.isNone then do
        if (← parseKeyword "LIMIT") then do
          if (← parseKeyword "ALL") then pure none
          else do
            let e ← parseExpr n
            pure (some e)
        else pure none
      else pure l
    let o ← if o.isNone then do
        if (← parseKeyword "OFFSET") then do
          let e ← parseExpr n
          let rows ← if (← parseKeyword "ROW") then pure " ROW"
            else if (← parseKeyword "ROWS") then pure " ROWS"
            else pure ""
          pure (some (e, rows))
        else pure none
      else pure o
    match l, o with
    | some lim, none =>
      if (← consume ",") then do
        let e ← parseExpr n
        parseLimitOffset n k (some e) (some (lim, ""))
      else parseLimitOffset n k l o
    | _, _ => parseLimitOffset n k l o
termination_by structural n _ _ _ => n

/-- Takes a common table expression of a WITH. -/
def parseCte : Nat → Reader String
  | 0 => outOfFuel
  | n + 1 => do
    let name ← parseIdentifier
    let cols ← if (← parseKeyword "AS") then pure [] else do
      let cols ← parseOptionalColumns
      expectKeyword "AS"
      pure cols
    expectSym "("
    let q ← parseQuery n
    expectSym ")"
    let from_ ← if (← parseKeyword "FROM") then do
        let i ← parseIdentifier
        pure (" FROM " ++ i.render)
      else pure ""
    pure (TableAlias.render ⟨name, cols⟩ ++ " AS (" ++ q.render ++ ")" ++ from_)
termination_by structural n => n

/-- Takes a query body and the set operations binding tighter than `prec`. -/
def parseQueryBody : Nat → Nat → Reader Body
  | 0, _ => outOfFuel
  | n + 1, prec => do
    let first ← if (← peekKeyword "SELECT") then do
        let s ← parseSelect n
        pure (Body.select s)
      else if (← consume "(") then do
        let q ← parseQuery n
        expectSym ")"
        pure (Body.printed ("(" ++ q.render ++ ")"))
      else if (← parseKeyword "VALUES") then parseValues n
      else if (← parseKeyword "TABLE") then parseTableBody
      else expected "SELECT, VALUES, or a subquery in the query body" (← peek)
    parseSetOperations n prec first
termination_by structural n _ => n

/-- Takes set operations after a body while they bind tighter than `prec`. -/
def parseSetOperations : Nat → Nat → Body → Reader Body
  | 0, _, b => pure b
  | n + 1, prec, left => do
    let t := (← peek).1
    let op? : Option (String × Nat) :=
      if t.isKw "UNION" then some ("UNION", 10)
      else if t.isKw "EXCEPT" then some ("EXCEPT", 10)
      else if t.isKw "INTERSECT" then some ("INTERSECT", 20)
      else none
    match op? with
    | none => pure left
    | some (op, np) =>
      if prec ≥ np then pure left
      else do
        let _ ← advance
        let q ← parseSetQuantifier
        let right ← parseQueryBody n np
        parseSetOperations n prec (.printed (left.render ++ " " ++ op ++ q ++ " " ++ right.render))
termination_by structural n _ _ => n

/-- Takes the rows of a VALUES after the keyword. -/
def parseValues : Nat → Reader Body
  | 0 => outOfFuel
  | n + 1 => do
    let rows ← commaSep (do
      let r ← parseKeyword "ROW"
      expectSym "("
      let es ← commaSep (parseExpr n)
      expectSym ")"
      pure (r, es))
    pure (.values (rows.any (·.1)) (rows.map (·.2)))
termination_by structural n => n

/-- Takes a SELECT. -/
def parseSelect : Nat → Reader Select
  | 0 => outOfFuel
  | n + 1 => do
    expectKeyword "SELECT"
    let distinct ← parseAllOrDistinct n
    let top ← if (← parseKeyword "TOP") then do
        let t ← parseTop n
        pure (some t)
      else pure none
    let projection ← commaSep (parseSelectItem n)
    if (← parseKeyword "INTO") then
      let _ ← parseOneOf ["TEMP", "TEMPORARY"]
      let _ ← parseKeyword "UNLOGGED"
      let _ ← parseKeyword "TABLE"
      let _ ← parseObjectName
    let from_ ← if (← parseKeyword "FROM") then commaSep (parseTableAndJoins n) else pure []
    if (← parseKeyword "PREWHERE") then
      let _ ← parseExpr n
    let selection ← if (← parseKeyword "WHERE") then do
        let e ← parseExpr n
        pure (some e)
      else pure none
    let groupBy ← parseGroupBy n
    if (← parseKeywords ["CLUSTER", "BY"]) then
      let _ ← commaSep (parseExpr n)
    if (← parseKeywords ["DISTRIBUTE", "BY"]) then
      let _ ← commaSep (parseExpr n)
    if (← parseKeywords ["SORT", "BY"]) then
      let _ ← commaSep (parseExpr n)
    let having ← if (← parseKeyword "HAVING") then do
        let e ← parseExpr n
        pure (some e)
      else pure none
    if (← parseKeyword "WINDOW") then
      let _ ← commaSep (parseNamedWindow n)
      if (← parseKeyword "QUALIFY") then
        let _ ← parseExpr n
    else if (← parseKeyword "QUALIFY") then
      let _ ← parseExpr n
      if (← parseKeyword "WINDOW") then
        let _ ← commaSep (parseNamedWindow n)
    pure { distinct, top, projection, from_, selection, groupBy, having }
termination_by structural n => n

/-- Takes a named window of a WINDOW clause. -/
def parseNamedWindow : Nat → Reader String
  | 0 => outOfFuel
  | n + 1 => do
    let i ← parseIdentifier
    expectKeyword "AS"
    if (← consume "(") then do
      let spec ← parseWindowSpec n
      pure (i.render ++ " AS (" ++ spec ++ ")")
    else do
      let other ← parseIdentifier
      pure (i.render ++ " AS " ++ other.render)
termination_by structural n => n

/-- Takes an optional ALL or DISTINCT, with DISTINCT ON. -/
def parseAllOrDistinct : Nat → Reader (Option Distinct)
  | 0 => outOfFuel
  | n + 1 => do
    let loc := (← peek).2
    let all ← parseKeyword "ALL"
    let distinct ← parseKeyword "DISTINCT"
    if !distinct then pure none
    else if all then failWith ("Cannot specify both ALL and DISTINCT" ++ loc.suffix)
    else if !(← parseKeyword "ON") then pure (some .plain)
    else do
      expectSym "("
      let cols ← if (← peek).1.isSym ")" then pure [] else commaSep (parseExpr n)
      expectSym ")"
      pure (some (.on cols))
termination_by structural n => n

/-- Takes a TOP clause after the keyword. -/
def parseTop : Nat → Reader String
  | 0 => outOfFuel
  | n + 1 => do
    let q ← if (← consume "(") then do
        let e ← parseExpr n
        expectSym ")"
        pure ("(" ++ e.render ++ ")")
      else do
        let t ← peek
        match t.1 with
        | .number _ _ => do
          let v ← parseLiteralUint
          pure (toString v)
        | _ => do
          let _ ← advance
          expected "literal int" t
    let percent ← parseKeyword "PERCENT"
    let ties ← parseKeywords ["WITH", "TIES"]
    pure ("TOP " ++ q ++ (if percent then " PERCENT" else "") ++ (if ties then " WITH TIES" else ""))
termination_by structural n => n

/-- Takes an item of a select list. -/
def parseSelectItem : Nat → Reader SelectItem
  | 0 => outOfFuel
  | n + 1 => do
    let e ← parseWildcardExpr n
    match e with
    | .qualifiedWildcard ps => do
      parseWildcardOptions n
      pure (.qualifiedWildcard ps)
    | .wildcard => do
      parseWildcardOptions n
      pure .wildcard
    | .ident i =>
      if i.quote.isNone && i.value.toLower == "from" then
        failWith ("Expected an expression, found: " ++ i.value ++ (← peek).2.suffix)
      else do
        match (← parseOptionalAlias reservedForColumnAlias) with
        | some a => pure (.aliased e a)
        | none => pure (.unnamed e)
    | _ => do
      match (← parseOptionalAlias reservedForColumnAlias) with
      | some a => pure (.aliased e a)
      | none => pure (.unnamed e)
termination_by structural n => n

/-- Takes the options after a wildcard: ILIKE, EXCLUDE, REPLACE and RENAME. -/
def parseWildcardOptions : Nat → Reader Unit
  | 0 => outOfFuel
  | n + 1 => do
    let ilike ← if (← parseKeyword "ILIKE") then do
        let t ← advance
        match t.1 with
        | .str .single _ => pure true
        | _ => expected "ilike pattern" t
      else pure false
    if !ilike then
      if (← parseKeyword "EXCLUDE") then
        if (← consume "(") then
          let _ ← commaSep parseIdentifier
          expectSym ")"
        else
          let _ ← parseIdentifier
    if (← parseKeyword "REPLACE") then
      expectSym "("
      let _ ← commaSep (do
        let _ ← parseExpr n
        let _ ← parseKeyword "AS"
        parseIdentifier)
      expectSym ")"
    if (← parseKeyword "RENAME") then
      let renamed : Reader Unit := do
        let _ ← parseIdentifier
        expectKeyword "AS"
        let _ ← parseIdentifier
      if (← consume "(") then
        let _ ← commaSep renamed
        expectSym ")"
      else renamed
termination_by structural n => n

/-- Takes an expression that may also be `*` or `t.*`. -/
def parseWildcardExpr : Nat → Reader Expr
  | 0 => outOfFuel
  | n + 1 => do
    let saved ← get
    let t ← advance
    match t.1 with
    | .word v q _ =>
      if (← peek).1.isSym "." then do
        match (← qualifiedStar [⟨v, q⟩] (← remaining)) with
        | some e => pure e
        | none => do
          set saved
          parseExpr n
      else do
        set saved
        parseExpr n
    | .sym "*" => pure .wildcard
    | _ => do
      set saved
      parseExpr n
termination_by structural n => n

/-- Takes a source with the joins that follow it. -/
def parseTableAndJoins : Nat → Reader TableWithJoins
  | 0 => outOfFuel
  | n + 1 => do
    let rel ← parseTableFactor n
    let joins ← parseJoins n
    pure ⟨rel, joins⟩
termination_by structural n => n

/-- Takes the joins after a source. -/
def parseJoins : Nat → Reader (List Join)
  | 0 => outOfFuel
  | n + 1 => do
    let global ← parseKeyword "GLOBAL"
    if (← parseKeyword "CROSS") then do
      let op ← if (← parseKeyword "JOIN") then pure JoinOp.cross
        else if (← parseKeyword "APPLY") then pure JoinOp.crossApply
        else expected "JOIN or APPLY after CROSS" (← peek)
      let rel ← parseTableFactor n
      let rest ← parseJoins n
      pure (⟨global, rel, op⟩ :: rest)
    else if (← parseKeyword "OUTER") then do
      expectKeyword "APPLY"
      let rel ← parseTableFactor n
      let rest ← parseJoins n
      pure (⟨global, rel, .outerApply⟩ :: rest)
    else do
      let natural ← parseKeyword "NATURAL"
      let kw := match (← peek).1 with
        | .word _ none u => u
        | _ => ""
      let mk? : Option (JoinConstraint → JoinOp) ←
        if kw == "INNER" || kw == "JOIN" then do
          let _ ← parseKeyword "INNER"
          expectKeyword "JOIN"
          pure (some JoinOp.inner)
        else if kw == "LEFT" || kw == "RIGHT" then do
          let _ ← advance
          let isLeft := kw == "LEFT"
          match (← parseOneOf ["OUTER", "SEMI", "ANTI", "JOIN"]) with
          | some "OUTER" => do
            expectKeyword "JOIN"
            pure (some (if isLeft then JoinOp.leftOuter else JoinOp.rightOuter))
          | some "SEMI" => do
            expectKeyword "JOIN"
            pure (some (if isLeft then JoinOp.leftSemi else JoinOp.rightSemi))
          | some "ANTI" => do
            expectKeyword "JOIN"
            pure (some (if isLeft then JoinOp.leftAnti else JoinOp.rightAnti))
          | some _ => pure (some (if isLeft then JoinOp.leftOuter else JoinOp.rightOuter))
          | none => failWith ("expected OUTER, SEMI, ANTI or JOIN after " ++ kw)
        else if kw == "ANTI" then do
          let _ ← advance
          expectKeyword "JOIN"
          pure (some JoinOp.anti)
        else if kw == "SEMI" then do
          let _ ← advance
          expectKeyword "JOIN"
          pure (some JoinOp.semi)
        else if kw == "FULL" then do
          let _ ← advance
          let _ ← parseKeyword "OUTER"
          expectKeyword "JOIN"
          pure (some JoinOp.fullOuter)
        else if kw == "OUTER" then expected "LEFT, RIGHT, or FULL" (← peek)
        else if natural then expected "a join type after NATURAL" (← peek)
        else pure none
      match mk? with
      | none => pure []
      | some mk => do
        let rel ← parseTableFactor n
        let c ← parseJoinConstraint n natural
        let rest ← parseJoins n
        pure (⟨global, rel, mk c⟩ :: rest)
termination_by structural n => n

/-- Takes the constraint of a join: ON, USING or nothing. -/
def parseJoinConstraint : Nat → Bool → Reader JoinConstraint
  | 0, _ => outOfFuel
  | n + 1, natural => do
    if natural then pure .natural
    else if (← parseKeyword "ON") then do
      let e ← parseExpr n
      pure (.onExpr e)
    else if (← parseKeyword "USING") then do
      if (← consume "(") then do
        let cols ← commaSep parseIdentifier
        expectSym ")"
        pure (.usingCols (cols.map Ident.render))
      else expected "a list of columns in parentheses" (← peek)
    else pure .noConstraint
termination_by structural n _ => n

/-- Takes one source of rows. -/
def parseTableFactor : Nat → Reader TableFactor
  | 0 => outOfFuel
  | n + 1 => do
    if (← parseKeyword "LATERAL") then do
      if (← consume "(") then parseDerived n true
      else do
        let name ← parseObjectName
        expectSym "("
        let args ← parseTableArgs n
        let label ← parseOptionalTableAlias
        pure (.printed ("LATERAL " ++ renderName name ++ args ++ aliasSuffix label))
    else if (← parseKeyword "TABLE") then do
      expectSym "("
      let e ← parseExpr n
      expectSym ")"
      let label ← parseOptionalTableAlias
      pure (.printed ("TABLE(" ++ e.render ++ ")" ++ aliasSuffix label))
    else if (← consume "(") then do
      match (← attempt (parseDerived n false)) with
      | some d => pure d
      | none => do
        let twj ← parseTableAndJoins n
        if !twj.joins.isEmpty then do
          expectSym ")"
          let label ← parseOptionalTableAlias
          pure (.nestedJoin ("(" ++ twj.render ++ ")" ++ aliasSuffix label))
        else
          match twj.relation with
          | .nestedJoin _ => do
            expectSym ")"
            let label ← parseOptionalTableAlias
            pure (.nestedJoin ("(" ++ twj.render ++ ")" ++ aliasSuffix label))
          | rel => do
            expectSym ")"
            match (← parseOptionalTableAlias) with
            | none => pure rel
            | some outer =>
              match rel with
              | .table name args none => pure (.table name args (some outer))
              | .derived l q none => pure (.derived l q (some outer))
              | .table _ _ (some inner) => failWith ("duplicate alias " ++ inner.render)
              | .derived _ _ (some inner) => failWith ("duplicate alias " ++ inner.render)
              | other => pure other
    else if (← peekKeyword "VALUES") && (← peekAt 1).1.isSym "(" then do
      let _ ← advance
      let body ← parseValues n
      let label ← parseOptionalTableAlias
      pure (.derived false body.render label)
    else if (← parseKeyword "UNNEST") then do
      expectSym "("
      let es ← commaSep (parseExpr n)
      expectSym ")"
      let ordinality ← parseKeywords ["WITH", "ORDINALITY"]
      let label ← parseOptionalTableAlias
      let offset ← parseKeywords ["WITH", "OFFSET"]
      let offsetAlias ← if offset then parseOptionalAlias reservedForColumnAlias else pure none
      pure (.printed ("UNNEST(" ++ renderExprs es ++ ")" ++
        (if ordinality then " WITH ORDINALITY" else "") ++ aliasSuffix label ++
        (if offset then " WITH OFFSET" else "") ++
        (match offsetAlias with
          | some a => " AS " ++ a.render
          | none => "")))
    else do
      let name ← parseObjectName
      let partitions ← if (← parseKeyword "PARTITION") then do
          expectSym "("
          let ps ← commaSep parseIdentifier
          expectSym ")"
          pure ("PARTITION (" ++ commaList (ps.map Ident.render) ++ ")")
        else pure ""
      let args ← if (← consume "(") then parseTableArgs n else pure ""
      let ordinality ← parseKeywords ["WITH", "ORDINALITY"]
      let label ← parseOptionalTableAlias
      if (← parseKeyword "WITH") then
        if (← consume "(") then
          let _ ← commaSep (parseExpr n)
          expectSym ")"
        else retreat
      let extra := partitions ++ args ++ (if ordinality then " WITH ORDINALITY" else "")
      pure (.table name (if extra.isEmpty && args.isEmpty then none else some extra) label)
termination_by structural n => n

/-- Takes the arguments of a table function after `(`, closing parenthesis included. -/
def parseTableArgs : Nat → Reader String
  | 0 => outOfFuel
  | n + 1 => do
    if (← consume ")") then pure "()"
    else do
      let args ← commaSep (parseFunctionArg n)
      expectSym ")"
      pure ("(" ++ commaList args ++ ")")
termination_by structural n => n

/-- Takes a derived table after `(`: a query, `)` and an optional alias. -/
def parseDerived : Nat → Bool → Reader TableFactor
  | 0, _ => outOfFuel
  | n + 1, lateral => do
    let q ← parseQuery n
    expectSym ")"
    let label ← parseOptionalTableAlias
    pure (.derived lateral q.render label)
termination_by structural n _ => n

/-- Takes an optional GROUP BY clause. -/
def parseGroupBy : Nat → Reader GroupBy
  | 0 => outOfFuel
  | n + 1 => do
    if (← parseKeywords ["GROUP", "BY"]) then do
      let exprs ← if (← parseKeyword "ALL") then pure none else do
        let es ← commaSep (parseGroupByExpr n)
        pure (some es)
      let mods ← groupModifiers (← remaining)
      match exprs with
      | none => pure (.all mods)
      | some es => pure (.exprs es mods)
    else pure (.exprs [] [])
termination_by structural n => n

/-- Takes one item of a GROUP BY. -/
def parseGroupByExpr : Nat → Reader Expr
  | 0 => outOfFuel
  | n + 1 => do
    let setText (s : List Expr) : String :=
      match s with
      | [e] => e.render
      | _ => "(" ++ renderExprs s ++ ")"
    if (← parseKeywords ["GROUPING", "SETS"]) then do
      expectSym "("
      let sets ← commaSep (parseTuple n false)
      expectSym ")"
      pure (.printed ("GROUPING SETS (" ++ commaList (sets.map fun s => "(" ++ renderExprs s ++ ")") ++ ")"))
    else if (← parseKeyword "CUBE") then do
      expectSym "("
      let sets ← commaSep (parseTuple n true)
      expectSym ")"
      pure (.printed ("CUBE (" ++ commaList (sets.map setText) ++ ")"))
    else if (← parseKeyword "ROLLUP") then do
      expectSym "("
      let sets ← commaSep (parseTuple n true)
      expectSym ")"
      pure (.printed ("ROLLUP (" ++ commaList (sets.map setText) ++ ")"))
    else if (← consumeBoth "(" ")") then pure (.printed "()")
    else parseExpr n
termination_by structural n => n

/-- Takes a parenthesised list of expressions, possibly empty; with `lift` a single
expression without parentheses is taken as a list of one. -/
def parseTuple : Nat → Bool → Reader (List Expr)
  | 0, _ => outOfFuel
  | n + 1, lift => do
    if (← consume "(") then do
      if (← consume ")") then pure []
      else do
        let es ← commaSep (parseExpr n)
        expectSym ")"
        pure es
    else if lift then do
      let e ← parseExpr n
      pure [e]
    else expected "(" (← peek)
termination_by structural n _ => n

/-- Takes an item of an ORDER BY. -/
def parseOrderByExpr : Nat → Reader OrderItem
  | 0 => outOfFuel
  | n + 1 => do
    let e ← parseExpr n
    let asc ← if (← parseKeyword "ASC") then pure (some true)
      else if (← parseKeyword "DESC") then pure (some false)
      else pure none
    let nulls ← if (← parseKeywords ["NULLS", "FIRST"]) then pure (some true)
      else if (← parseKeywords ["NULLS", "LAST"]) then pure (some false)
      else pure none
    pure ⟨e, asc, nulls⟩
termination_by structural n => n

/-- Takes an expression. -/
def parseExpr : Nat → Reader Expr
  | 0 => outOfFuel
  | n + 1 => parseSubexpr n 0
termination_by structural n => n

/-- Takes an expression whose operators bind tighter than `prec`. -/
def parseSubexpr : Nat → Nat → Reader Expr
  | 0, _ => outOfFuel
  | n + 1, prec => descend do
    let e ← parsePrefix n
    parseInfixLoop n prec e
termination_by structural n _ => n

/-- Takes infix operators after `e` while they bind tighter than `prec`. -/
def parseInfixLoop : Nat → Nat → Expr → Reader Expr
  | 0, _, _ => outOfFuel
  | n + 1, prec, e => do
    let np ← nextPrecedence
    if prec ≥ np then pure e
    else do
      let e' ← parseInfix n e np
      parseInfixLoop n prec e'
termination_by structural n _ _ => n

/-- Takes the start of an expression: a typed string, or a token and what it begins,
then an optional COLLATE. -/
def parsePrefix : Nat → Reader Expr
  | 0 => outOfFuel
  | n + 1 => do
    let typed ← attempt (do
      let ty ← parseDataType
      if ty.custom then failWith "dummy"
      else if ty.text == "INTERVAL" then parseInterval n
      else do
        let v ← parseLiteralString
        pure (Expr.printed (ty.text ++ " '" ++ doubleQuote '\'' v ++ "'")))
    match typed with
    | some e => pure e
    | none => do
      let t ← advance
      let e ← parseToken n t
      if (← parseKeyword "COLLATE") then do
        let c ← parseObjectName
        pure (Expr.printed (e.render ++ " COLLATE " ++ renderName c))
      else pure e
termination_by structural n => n

/-- Takes what a token begins, the token already taken. -/
def parseToken : Nat → Located → Reader Expr
  | 0, _ => outOfFuel
  | n + 1, t => do
    match t.1 with
    | .word v q u =>
      if q.isSome then parseWord n v q
      else if u == "TRUE" || u == "FALSE" || u == "NULL" then do
        retreat
        let v ← parseValue
        pure (.lit v)
      else if ["CURRENT_CATALOG", "CURRENT_USER", "SESSION_USER", "USER"].contains u then
        pure (.printed v)
      else if ["CURRENT_TIMESTAMP", "CURRENT_TIME", "CURRENT_DATE", "LOCALTIME",
               "LOCALTIMESTAMP"].contains u then do
        if (← consume "(") then do
          let (args, _) ← parseArgList n
          pure (.printed (v ++ args))
        else pure (.printed v)
      else if u == "CASE" then parseCase n
      else if u == "CONVERT" || u == "TRY_CONVERT" then parseConvert n (u == "TRY_CONVERT")
      else if u == "CAST" || u == "TRY_CAST" || u == "SAFE_CAST" then parseCast n u
      else if u == "EXISTS" then parseExists n false
      else if u == "EXTRACT" then parseExtract n
      else if u == "CEIL" || u == "FLOOR" then parseCeilFloor n u
      else if u == "POSITION" && (← peek).1.isSym "(" then parsePosition n v
      else if u == "SUBSTRING" then parseSubstring n
      else if u == "OVERLAY" then parseOverlay n
      else if u == "TRIM" then parseTrim n
      else if u == "INTERVAL" then parseInterval n
      else if u == "ARRAY" && (← peek).1.isSym "[" then do
        let _ ← advance
        parseArray n true
      else if u == "ARRAY" && (← peek).1.isSym "(" then do
        let _ ← advance
        let q ← parseQuery n
        expectSym ")"
        pure (.printed (v ++ "(" ++ q.render ++ ")"))
      else if u == "NOT" then parseNot n
      else parseWord n v q
    | .sym "[" => parseArray n false
    | .sym "-" => do
      let e ← parseSubexpr n 40
      pure (.unary "-" e)
    | .sym "+" => do
      let e ← parseSubexpr n 40
      pure (.unary "+" e)
    | .sym "(" => parseParenthesized n
    | .sym ":" | .sym "@" | .str _ _ | .number _ _ | .dollar _ | .placeholder _ => do
      retreat
      let v ← parseValue
      pure (.lit v)
    | _ => expected "an expression" t
termination_by structural n _ => n

/-- Takes what follows a word that starts an expression: a dotted name, a call, an
introduced string or a plain name. -/
def parseWord : Nat → String → Option Char → Reader Expr
  | 0, _, _ => outOfFuel
  | n + 1, v, q => do
    let nt := (← peek).1
    if nt.isSym "(" || nt.isSym "." then do
      let parts ← dottedParts [⟨v, q⟩] (← remaining)
      if (← consume "(") then do
        retreat
        parseFunction n parts
      else pure (.compound parts)
    else
      match nt with
      | .str .single _ | .str .hex _ =>
        if v.startsWith "_" then do
          let s ← parseValue
          pure (.printed (v ++ " " ++ s.render))
        else pure (.ident ⟨v, q⟩)
      | _ => pure (.ident ⟨v, q⟩)
termination_by structural n _ _ => n

/-- Takes what follows `(` at the start of an expression: a subquery, a parenthesised
expression or a tuple, and an optional `.field` after it. -/
def parseParenthesized : Nat → Reader Expr
  | 0 => outOfFuel
  | n + 1 => do
    let e ← if (← peekSubquery) then do
        let q ← parseQuery n
        pure (Expr.subquery q.render)
      else do
        let es ← commaSep (parseExpr n)
        match es with
        | [x] => pure (Expr.nested x)
        | _ => pure (Expr.printed ("(" ++ renderExprs es ++ ")"))
    expectSym ")"
    if (← consume ".") then do
      let k ← advance
      match k.1 with
      | .word kv kq _ => pure (Expr.printed (e.render ++ "." ++ (Ident.mk kv kq).render))
      | _ => failWith ("Expected identifier, found: " ++ k.1.render ++ k.2.suffix)
    else pure e
termination_by structural n => n

/-- Takes the items of an array after `[`, closing bracket included. -/
def parseArray : Nat → Bool → Reader Expr
  | 0, _ => outOfFuel
  | n + 1, named => do
    let es ← if (← peek).1.isSym "]" then pure [] else commaSep (parseExpr n)
    expectSym "]"
    pure (.printed ((if named then "ARRAY" else "") ++ "[" ++ renderExprs es ++ "]"))
termination_by structural n _ => n

/-- Takes what follows a prefix NOT. -/
def parseNot : Nat → Reader Expr
  | 0 => outOfFuel
  | n + 1 => do
    if (← peekKeyword "EXISTS") then do
      let _ ← advance
      parseExists n true
    else do
      let e ← parseSubexpr n 15
      pure (.unary "NOT" e)
termination_by structural n => n

/-- Takes `(query)` after EXISTS. -/
def parseExists : Nat → Bool → Reader Expr
  | 0, _ => outOfFuel
  | n + 1, negated => do
    expectSym "("
    let q ← parseQuery n
    expectSym ")"
    pure (.printed ((if negated then "NOT " else "") ++ "EXISTS (" ++ q.render ++ ")"))
termination_by structural n _ => n

/-- Takes a CASE expression after the keyword. -/
def parseCase : Nat → Reader Expr
  | 0 => outOfFuel
  | n + 1 => do
    let operand ← if (← parseKeyword "WHEN") then pure none else do
      let o ← parseExpr n
      expectKeyword "WHEN"
      pure (some o)
    let arms ← repeatWhile (do
      let c ← parseExpr n
      expectKeyword "THEN"
      let r ← parseExpr n
      pure (" WHEN " ++ c.render ++ " THEN " ++ r.render)) (parseKeyword "WHEN") (← remaining)
    let elseText ← if (← parseKeyword "ELSE") then do
        let e ← parseExpr n
        pure (" ELSE " ++ e.render)
      else pure ""
    expectKeyword "END"
    pure (.printed ("CASE" ++ (match operand with
      | some o => " " ++ o.render
      | none => "") ++ String.join arms ++ elseText ++ " END"))
termination_by structural n => n

/-- Takes a CAST, TRY_CAST or SAFE_CAST after the keyword. -/
def parseCast : Nat → String → Reader Expr
  | 0, _ => outOfFuel
  | n + 1, kind => do
    expectSym "("
    let e ← parseExpr n
    expectKeyword "AS"
    let ty ← parseDataType
    let format ← if (← parseKeyword "FORMAT") then do
        let v ← parseValue
        if (← parseKeywords ["AT", "TIME", "ZONE"]) then do
          let z ← parseValue
          pure (" FORMAT " ++ v.render ++ " AT TIME ZONE " ++ z.render)
        else pure (" FORMAT " ++ v.render)
      else pure ""
    expectSym ")"
    pure (.printed (kind ++ "(" ++ e.render ++ " AS " ++ ty.text ++ format ++ ")"))
termination_by structural n _ => n

/-- Takes a CONVERT after the keyword. -/
def parseConvert : Nat → Bool → Reader Expr
  | 0, _ => outOfFuel
  | n + 1, isTry => do
    let head := (if isTry then "TRY_" else "") ++ "CONVERT("
    expectSym "("
    let e ← parseExpr n
    if (← parseKeyword "USING") then do
      let cs ← parseObjectName
      expectSym ")"
      pure (.printed (head ++ e.render ++ " USING " ++ renderName cs ++ ")"))
    else do
      expectSym ","
      let ty ← parseDataType
      let cs ← if (← parseKeyword "CHARACTER") then do
          expectKeyword "SET"
          let c ← parseObjectName
          pure (" CHARACTER SET " ++ renderName c)
        else pure ""
      expectSym ")"
      pure (.printed (head ++ e.render ++ ", " ++ ty.text ++ cs ++ ")"))
termination_by structural n _ => n

/-- Takes an EXTRACT after the keyword. -/
def parseExtract : Nat → Reader Expr
  | 0 => outOfFuel
  | n + 1 => do
    expectSym "("
    let field ← parseDateTimeField
    let comma ← if (← parseKeyword "FROM") then pure false
      else if (← consume ",") then pure true
      else failWith "Expected 'FROM' or ','"
    let e ← parseExpr n
    expectSym ")"
    pure (.printed ("EXTRACT(" ++ field ++ (if comma then ", " else " FROM ") ++ e.render ++ ")"))
termination_by structural n => n

/-- Takes a CEIL or FLOOR after the keyword. -/
def parseCeilFloor : Nat → String → Reader Expr
  | 0, _ => outOfFuel
  | n + 1, kw => do
    expectSym "("
    let e ← parseExpr n
    let field ← if (← parseKeyword "TO") then do
        let f ← parseDateTimeField
        pure (" TO " ++ f)
      else if (← consume ",") then do
        let v ← parseValue
        match v with
        | .number _ _ => pure (", " ++ v.render)
        | _ => failWith "Scale field can only be of number type"
      else pure ""
    expectSym ")"
    pure (.printed (kw ++ "(" ++ e.render ++ field ++ ")"))
termination_by structural n _ => n

/-- Takes a POSITION after the keyword: `(a IN b)`, or else an ordinary call. -/
def parsePosition : Nat → String → Reader Expr
  | 0, _ => outOfFuel
  | n + 1, v => do
    let special ← attempt (do
      expectSym "("
      let e ← parseSubexpr n 20
      expectKeyword "IN"
      let f ← parseExpr n
      expectSym ")"
      pure (Expr.printed ("POSITION(" ++ e.render ++ " IN " ++ f.render ++ ")")))
    match special with
    | some e => pure e
    | none => parseFunction n [⟨v, none⟩]
termination_by structural n _ => n

/-- Takes a SUBSTRING after the keyword. -/
def parseSubstring : Nat → Reader Expr
  | 0 => outOfFuel
  | n + 1 => do
    expectSym "("
    let e ← parseExpr n
    let special ← consume ","
    let from_ ← if special then do
        let f ← parseExpr n
        pure (some f)
      else if (← parseKeyword "FROM") then do
        let f ← parseExpr n
        pure (some f)
      else pure none
    let for_ ← if (← parseKeyword "FOR") then do
        let f ← parseExpr n
        pure (some f)
      else if (← consume ",") then do
        let f ← parseExpr n
        pure (some f)
      else pure none
    expectSym ")"
    let part (word : String) : Option Expr → String
      | some x => (if special then ", " else " " ++ word ++ " ") ++ x.render
      | none => ""
    pure (.printed ("SUBSTRING(" ++ e.render ++ part "FROM" from_ ++ part "FOR" for_ ++ ")"))
termination_by structural n => n

/-- Takes an OVERLAY after the keyword. -/
def parseOverlay : Nat → Reader Expr
  | 0 => outOfFuel
  | n + 1 => do
    expectSym "("
    let e ← parseExpr n
    expectKeyword "PLACING"
    let what ← parseExpr n
    expectKeyword "FROM"
    let from_ ← parseExpr n
    let for_ ← if (← parseKeyword "FOR") then do
        let f ← parseExpr n
        pure (" FOR " ++ f.render)
      else pure ""
    expectSym ")"
    pure (.printed ("OVERLAY(" ++ e.render ++ " PLACING " ++ what.render ++ " FROM " ++
      from_.render ++ for_ ++ ")"))
termination_by structural n => n

/-- Takes a TRIM after the keyword. -/
def parseTrim : Nat → Reader Expr
  | 0 => outOfFuel
  | n + 1 => do
    expectSym "("
    let whereText ← match (← parseOneOf ["BOTH", "LEADING", "TRAILING"]) with
      | some w => pure (w ++ " ")
      | none => pure ""
    let e ← parseExpr n
    if (← parseKeyword "FROM") then do
      let e2 ← parseExpr n
      expectSym ")"
      pure (.printed ("TRIM(" ++ whereText ++ e.render ++ " FROM " ++ e2.render ++ ")"))
    else if (← consume ",") then do
      let cs ← commaSep (parseExpr n)
      expectSym ")"
      pure (.printed ("TRIM(" ++ e.render ++ ", " ++ renderExprs cs ++ ")"))
    else do
      expectSym ")"
      pure (.printed ("TRIM(" ++ whereText ++ e.render ++ ")"))
termination_by structural n => n

/-- Takes an INTERVAL after the keyword: a value and optional units. -/
def parseInterval : Nat → Reader Expr
  | 0 => outOfFuel
  | n + 1 => do
    let value ← parsePrefix n
    let unitNext := match (← peek).1 with
      | .word _ none u => temporalUnits.contains u
      | _ => false
    let leading ← if unitNext then do
        let f ← parseDateTimeField
        pure (some f)
      else pure none
    let head := "INTERVAL " ++ value.render ++ (match leading with
      | some f => " " ++ f
      | none => "")
    if leading == some "SECOND" then do
      let (p, s) ← parsePrecisionScale
      match p, s with
      | some p, some s => pure (.printed (head ++ " (" ++ toString p ++ ", " ++ toString s ++ ")"))
      | some p, none => pure (.printed (head ++ " (" ++ toString p ++ ")"))
      | _, _ => pure (.printed head)
    else do
      let lp ← parseOptionalPrecision
      let lpText := match lp with
        | some p => " (" ++ p ++ ")"
        | none => ""
      if (← parseKeyword "TO") then do
        let last ← parseDateTimeField
        let fs ← if last == "SECOND" then parseOptionalPrecision else pure none
        pure (.printed (head ++ lpText ++ " TO " ++ last ++ (match fs with
          | some p => " (" ++ p ++ ")"
          | none => "")))
      else pure (.printed (head ++ lpText))
termination_by structural n => n

/-- Takes the rest of a call after its name: arguments, parameters, WITHIN GROUP,
null treatment and OVER. -/
def parseFunction : Nat → List Ident → Reader Expr
  | 0, _ => outOfFuel
  | n + 1, name => do
    expectSym "("
    let (first, firstNulls) ← parseArgList n
    let (params, args, nullsInArgs) ← if (← consume "(") then do
        let (second, secondNulls) ← parseArgList n
        pure (first, second, secondNulls)
      else pure ("", first, firstNulls)
    let within ← if (← parseKeywords ["WITHIN", "GROUP"]) then do
        expectSym "("
        expectKeywords ["ORDER", "BY"]
        let items ← commaSep (parseOrderByExpr n)
        expectSym ")"
        pure (" WITHIN GROUP (ORDER BY " ++ commaList (items.map OrderItem.render) ++ ")")
      else pure ""
    let nulls ← if nullsInArgs then pure "" else parseNullTreatment
    let windowText ← if (← parseKeyword "OVER") then do
        if (← consume "(") then do
          let spec ← parseWindowSpec n
          pure (" OVER (" ++ spec ++ ")")
        else do
          let i ← parseIdentifier
          pure (" OVER " ++ i.render)
      else pure ""
    pure (.printed (renderName name ++ params ++ args ++ within ++
      (if nulls.isEmpty then "" else " " ++ nulls) ++ windowText))
termination_by structural n _ => n

/-- Takes the arguments of a call after `(`, closing parenthesis included; also says
whether they ended in a null treatment. -/
def parseArgList : Nat → Reader (String × Bool)
  | 0 => outOfFuel
  | n + 1 => do
    if (← consume ")") then pure ("()", false)
    else do
      let loc := (← peek).2
      let all ← parseKeyword "ALL"
      let distinct ← parseKeyword "DISTINCT"
      if all && distinct then failWith ("Cannot specify both ALL and DISTINCT" ++ loc.suffix)
      let treatment := if all then "ALL " else if distinct then "DISTINCT " else ""
      let args ← commaSep (parseFunctionArg n)
      let nulls ← parseNullTreatment
      let order ← if (← parseKeywords ["ORDER", "BY"]) then do
          let items ← commaSep (parseOrderByExpr n)
          pure ["ORDER BY " ++ commaList (items.map OrderItem.render)]
        else pure []
      let limit ← if (← parseKeyword "LIMIT") then do
          let e ← parseExpr n
          pure ["LIMIT " ++ e.render]
        else pure []
      let having ← if (← parseKeyword "HAVING") then do
          let k ← expectOneOf ["MIN", "MAX"]
          let e ← parseExpr n
          pure ["HAVING " ++ k ++ " " ++ e.render]
        else pure []
      let sep ← if (← parseKeyword "SEPARATOR") then do
          let v ← parseValue
          pure ["SEPARATOR " ++ v.render]
        else pure []
      expectSym ")"
      let clauses := (if nulls.isEmpty then [] else [nulls]) ++ order ++ limit ++ having ++ sep
      let body := treatment ++ commaList args ++
        (if clauses.isEmpty then "" else " " ++ " ".intercalate clauses)
      pure ("(" ++ body ++ ")", !nulls.isEmpty)
termination_by structural n => n

/-- Takes one argument of a call, possibly named with `=>` or `:=`. -/
def parseFunctionArg : Nat → Reader String
  | 0 => outOfFuel
  | n + 1 => do
    let t1 := (← peekAt 1).1
    if t1.isSym "=>" || t1.isSym ":=" then do
      let name ← parseIdentifier
      let op := if t1.isSym "=>" then "=>" else ":="
      let _ ← advance
      let a ← parseWildcardExpr n
      pure (name.render ++ " " ++ op ++ " " ++ argText a)
    else do
      let a ← parseWildcardExpr n
      pure (argText a)
termination_by structural n => n

/-- Takes a window specification after `(`, closing parenthesis included. -/
def parseWindowSpec : Nat → Reader String
  | 0 => outOfFuel
  | n + 1 => do
    let name ← match (← peek).1 with
      | .word _ q u =>
        if q.isSome || !isKeyword u then attempt parseIdentifier else pure none
      | _ => pure none
    let partition ← if (← parseKeywords ["PARTITION", "BY"]) then commaSep (parseExpr n) else pure []
    let order ← if (← parseKeywords ["ORDER", "BY"]) then commaSep (parseOrderByExpr n) else pure []
    let frame ← if (← consume ")") then pure none else do
      let f ← parseWindowFrame n
      expectSym ")"
      pure (some f)
    let parts := (match name with
        | some i => [i.render]
        | none => []) ++
      (if partition.isEmpty then [] else ["PARTITION BY " ++ renderExprs partition]) ++
      (if order.isEmpty then [] else ["ORDER BY " ++ commaList (order.map OrderItem.render)]) ++
      (match frame with
        | some f => [f]
        | none => [])
    pure (" ".intercalate parts)
termination_by structural n => n

/-- Takes a window frame: units and one bound or two. -/
def parseWindowFrame : Nat → Reader String
  | 0 => outOfFuel
  | n + 1 => do
    let t ← advance
    let units ← match t.1 with
      | .word _ none u =>
        if u == "ROWS" || u == "RANGE" || u == "GROUPS" then pure u
        else expected "ROWS, RANGE, GROUPS" t
      | _ => expected "ROWS, RANGE, GROUPS" t
    if (← parseKeyword "BETWEEN") then do
      let s ← parseFrameBound n
      expectKeyword "AND"
      let e ← parseFrameBound n
      pure (units ++ " BETWEEN " ++ s ++ " AND " ++ e)
    else do
      let s ← parseFrameBound n
      pure (units ++ " " ++ s)
termination_by structural n => n

/-- Takes a bound of a window frame. -/
def parseFrameBound : Nat → Reader String
  | 0 => outOfFuel
  | n + 1 => do
    if (← parseKeywords ["CURRENT", "ROW"]) then pure "CURRENT ROW"
    else do
      let rows ← if (← parseKeyword "UNBOUNDED") then pure "UNBOUNDED" else do
        match (← peek).1 with
        | .str .single _ => do
          let e ← parseInterval n
          pure e.render
        | _ => do
          let e ← parseExpr n
          pure e.render
      if (← parseKeyword "PRECEDING") then pure (rows ++ " PRECEDING")
      else if (← parseKeyword "FOLLOWING") then pure (rows ++ " FOLLOWING")
      else expected "PRECEDING or FOLLOWING" (← peek)
termination_by structural n => n

/-- Takes an infix operator and its right side after `e`, the operator binding with
precedence `prec`. -/
def parseInfix : Nat → Expr → Nat → Reader Expr
  | 0, _, _ => outOfFuel
  | n + 1, e, prec => do
    let t ← advance
    let op? ← if t.1.isKw "OPERATOR" then do
        expectSym "("
        let names ← repeatWhile (do
          let x ← advance
          pure x.1.render) (consume ".") (← remaining)
        expectSym ")"
        pure (some (BinOp.other ("OPERATOR(" ++ ".".intercalate names ++ ")")))
      else pure (binaryOpOf t.1)
    match op? with
    | some op =>
      match (← parseOneOf ["ANY", "ALL", "SOME"]) with
      | some kw => do
        expectSym "("
        let right ← if (← peekSubquery) then do
            retreat
            parseSubexpr n prec
          else do
            let r ← parseSubexpr n prec
            expectSym ")"
            pure r
        if !op.isComparison then
          failWith ("Expected one of [=, >, <, =>, =<, !=] as comparison operator, found: " ++
            op.render ++ t.2.suffix)
        let isSub := match right with
          | .subquery _ => true
          | _ => false
        pure (.printed (e.render ++ " " ++ op.render ++ " " ++ kw ++
          (if isSub then right.render else "(" ++ right.render ++ ")")))
      | none => do
        let r ← parseSubexpr n prec
        pure (.binary e op r)
    | none =>
      match t.1 with
      | .word _ none u =>
        if u == "IS" then parseIs n e
        else if u == "AT" then do
          expectKeywords ["TIME", "ZONE"]
          let z ← parseSubexpr n prec
          pure (.printed (e.render ++ " AT TIME ZONE " ++ z.render))
        else if ["NOT", "IN", "BETWEEN", "LIKE", "ILIKE", "SIMILAR", "REGEXP", "RLIKE"].contains u then do
          retreat
          parseNegatable n e
        else noInfix t
      | .sym "::" => do
        let ty ← parseDataType
        pure (.printed (e.render ++ "::" ++ ty.text))
      | .sym "[" => parseSubscript n e
      | _ => noInfix t
termination_by structural n _ _ => n

/-- Takes what follows IS. -/
def parseIs : Nat → Expr → Reader Expr
  | 0, _ => outOfFuel
  | n + 1, e => do
    if (← parseKeyword "NULL") then pure (.isNull e false)
    else if (← parseKeywords ["NOT", "NULL"]) then pure (.isNull e true)
    else if (← parseKeyword "TRUE") then pure (.printed (e.render ++ " IS TRUE"))
    else if (← parseKeywords ["NOT", "TRUE"]) then pure (.printed (e.render ++ " IS NOT TRUE"))
    else if (← parseKeyword "FALSE") then pure (.printed (e.render ++ " IS FALSE"))
    else if (← parseKeywords ["NOT", "FALSE"]) then pure (.printed (e.render ++ " IS NOT FALSE"))
    else if (← parseKeyword "UNKNOWN") then pure (.printed (e.render ++ " IS UNKNOWN"))
    else if (← parseKeywords ["NOT", "UNKNOWN"]) then pure (.printed (e.render ++ " IS NOT UNKNOWN"))
    else if (← parseKeywords ["DISTINCT", "FROM"]) then do
      let e2 ← parseExpr n
      pure (.printed (e.render ++ " IS DISTINCT FROM " ++ e2.render))
    else if (← parseKeywords ["NOT", "DISTINCT", "FROM"]) then do
      let e2 ← parseExpr n
      pure (.printed (e.render ++ " IS NOT DISTINCT FROM " ++ e2.render))
    else expected "[NOT] NULL or TRUE|FALSE or [NOT] DISTINCT FROM after IS" (← peek)
termination_by structural n _ => n

/-- Takes `[NOT] IN`, `BETWEEN`, `LIKE`, `ILIKE`, `SIMILAR TO`, `REGEXP` or `RLIKE` and
its right side. -/
def parseNegatable : Nat → Expr → Reader Expr
  | 0, _ => outOfFuel
  | n + 1, e => do
    let negated ← parseKeyword "NOT"
    let regexp ← parseKeyword "REGEXP"
    let rlike ← parseKeyword "RLIKE"
    if regexp || rlike then do
      let p ← parseSubexpr n 19
      pure (.patternMatch (if regexp then .regexp else .rlike) negated false e p none)
    else if (← parseKeyword "IN") then parseIn n e negated
    else if (← parseKeyword "BETWEEN") then do
      let lo ← parseSubexpr n 20
      expectKeyword "AND"
      let hi ← parseSubexpr n 20
      pure (.printed (e.render ++ " " ++ notText negated ++ "BETWEEN " ++ lo.render ++ " AND " ++ hi.render))
    else if (← parseKeyword "LIKE") then do
      let any ← parseKeyword "ANY"
      let p ← parseSubexpr n 19
      let esc ← parseEscape n
      pure (.patternMatch .like negated any e p esc)
    else if (← parseKeyword "ILIKE") then do
      let any ← parseKeyword "ANY"
      let p ← parseSubexpr n 19
      let esc ← parseEscape n
      pure (.patternMatch .ilike negated any e p esc)
    else if (← parseKeywords ["SIMILAR", "TO"]) then do
      let p ← parseSubexpr n 19
      let esc ← parseEscape n
      pure (.patternMatch .similar negated false e p esc)
    else expected "IN or BETWEEN after NOT" (← peek)
termination_by structural n _ => n

/-- Takes the list or subquery after IN. -/
def parseIn : Nat → Expr → Bool → Reader Expr
  | 0, _, _ => outOfFuel
  | n + 1, e, negated => do
    let head := e.render ++ " " ++ notText negated ++ "IN "
    if (← parseKeyword "UNNEST") then do
      expectSym "("
      let a ← parseExpr n
      expectSym ")"
      pure (.printed (head ++ "UNNEST(" ++ a.render ++ ")"))
    else do
      expectSym "("
      let inner ← if (← peekSubquery) then do
          let q ← parseQuery n
          pure q.render
        else do
          let es ← commaSep (parseExpr n)
          pure (renderExprs es)
      expectSym ")"
      pure (.printed (head ++ "(" ++ inner ++ ")"))
termination_by structural n _ _ => n

/-- Takes a subscript or slice after `[`, closing bracket included. -/
def parseSubscript : Nat → Expr → Reader Expr
  | 0, _ => outOfFuel
  | n + 1, e => do
    let lower ← if (← consume ":") then pure none else do
      let l ← parseExpr n
      pure (some l)
    let close (inner : String) : Expr := .printed (e.render ++ "[" ++ inner ++ "]")
    if (← consume "]") then
      match lower with
      | some l => pure (close l.render)
      | none => pure (close ":")
    else do
      if lower.isSome then expectSym ":"
      if (← consume "]") then pure (close (optText lower ++ ":"))
      else do
        let upper ← parseExpr n
        if (← consume "]") then pure (close (optText lower ++ ":" ++ upper.render))
        else do
          expectSym ":"
          let stride ← if (← consume "]") then pure none else do
            let s ← parseExpr n
            expectSym "]"
            pure (some s)
          pure (close (optText lower ++ ":" ++ upper.render ++ (match stride with
            | some s => ":" ++ s.render
            | none => "")))
termination_by structural n _ => n

end

end Tabula.Sql
