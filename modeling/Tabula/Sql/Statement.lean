import Tabula.Sql.Parser

/-!
# Reading statements

Statements separated by semicolons; errors of the lexer and of the reader are reported
as `sql parser error: ...`.
-/

namespace Tabula.Sql

/-- Takes an assignment `target = value` of UPDATE or ON DUPLICATE KEY UPDATE. -/
def parseAssignment (fuel : Nat) : Reader Unit := do
  if (← consume "(") then
    let _ ← commaSep parseObjectName
    expectSym ")"
  else
    let _ ← parseObjectName
  expectSym "="
  let _ ← parseExpr fuel

/-- Takes an optional RETURNING list. -/
def parseReturning (fuel : Nat) : Reader Unit := do
  if (← parseKeyword "RETURNING") then
    let _ ← commaSep (parseSelectItem fuel)

/-- Takes an INSERT after its keyword. -/
def parseInsert (fuel : Nat) : Reader Statement := do
  let _ ← parseOneOf ["LOW_PRIORITY", "DELAYED", "HIGH_PRIORITY"]
  let _ ← parseKeyword "IGNORE"
  let _ ← parseOneOf ["INTO", "OVERWRITE"]
  let _ ← parseKeyword "LOCAL"
  let _ ← parseKeyword "TABLE"
  let name ← parseObjectName
  let (cols, source) ← if (← parseKeywords ["DEFAULT", "VALUES"]) then pure ([], none) else do
    let cols ← parseOptionalColumns
    if (← parseKeyword "PARTITION") then
      expectSym "("
      let _ ← commaSep (parseExpr fuel)
      expectSym ")"
    let q ← parseQuery fuel
    pure (cols, some q)
  if (← parseKeyword "AS") then
    let _ ← parseObjectName
    let _ ← parseOptionalColumns
  if (← parseKeyword "ON") then
    if (← parseKeyword "CONFLICT") then
      if (← parseKeywords ["ON", "CONSTRAINT"]) then
        let _ ← parseObjectName
      else if (← peek).1.isSym "(" then
        let _ ← parseOptionalColumns
      expectKeyword "DO"
      if !(← parseKeyword "NOTHING") then
        expectKeywords ["UPDATE", "SET"]
        let _ ← commaSep (parseAssignment fuel)
        if (← parseKeyword "WHERE") then
          let _ ← parseExpr fuel
    else
      expectKeywords ["DUPLICATE", "KEY", "UPDATE"]
      let _ ← commaSep (parseAssignment fuel)
  parseReturning fuel
  pure (.insert name cols source)

/-- Takes a DELETE after its keyword; FROM is optional. -/
def parseDelete (fuel : Nat) : Reader Statement := do
  let _ ← parseKeyword "FROM"
  let from_ ← commaSep (parseTableAndJoins fuel)
  if (← parseKeyword "USING") then
    let _ ← commaSep (parseTableAndJoins fuel)
  let selection ← if (← parseKeyword "WHERE") then do
      let e ← parseExpr fuel
      pure (some e)
    else pure none
  parseReturning fuel
  if (← parseKeywords ["ORDER", "BY"]) then
    let _ ← commaSep (parseOrderByExpr fuel)
  if (← parseKeyword "LIMIT") then
    if !(← parseKeyword "ALL") then
      let _ ← parseExpr fuel
  pure (.delete from_ selection)

/-- Takes the OR clause of an UPDATE, such as `OR REPLACE`. -/
def parseConflictClause : Reader Unit := do
  if (← parseKeywords ["OR", "REPLACE"]) then pure ()
  else if (← parseKeywords ["OR", "ROLLBACK"]) then pure ()
  else if (← parseKeywords ["OR", "ABORT"]) then pure ()
  else if (← parseKeywords ["OR", "FAIL"]) then pure ()
  else if (← parseKeywords ["OR", "IGNORE"]) then pure ()
  else
    let _ ← parseKeyword "REPLACE"

/-- Takes an UPDATE after its keyword. -/
def parseUpdate (fuel : Nat) : Reader Statement := do
  parseConflictClause
  let _ ← parseTableAndJoins fuel
  expectKeyword "SET"
  let _ ← commaSep (parseAssignment fuel)
  if (← parseKeyword "FROM") then
    let _ ← parseTableAndJoins fuel
  if (← parseKeyword "WHERE") then
    let _ ← parseExpr fuel
  parseReturning fuel
  pure (.other "UPDATE")

/-- The statement keywords taken as whole statements up to the next semicolon. -/
def skippedStatements : List String :=
  ["CREATE", "DROP", "ALTER", "TRUNCATE", "SHOW", "SET", "BEGIN", "COMMIT", "ROLLBACK", "START",
   "USE", "GRANT", "REVOKE", "ANALYZE", "MERGE", "COPY", "CALL", "DECLARE", "FETCH", "CLOSE",
   "PREPARE", "EXECUTE", "DEALLOCATE", "SAVEPOINT", "RELEASE", "KILL", "FLUSH", "CACHE",
   "UNCACHE", "MSCK", "LOAD", "DISCARD", "COMMENT", "ATTACH", "DETACH", "INSTALL", "PRAGMA",
   "LOCK", "UNLOCK", "LISTEN", "NOTIFY", "UNLISTEN", "OPTIMIZE", "ASSERT", "END", "ABORT",
   "RAISE", "RETURN", "DENY", "VACUUM", "REFRESH", "RESET", "SUMMARIZE", "DESCRIBE"]

/-- Skips tokens up to the next semicolon or the end. -/
def skipStatement : Nat → Reader Unit
  | 0 => pure ()
  | fuel + 1 => do
    let t := (← peek).1
    match t with
    | .eof => pure ()
    | .sym ";" => pure ()
    | _ =>
      let _ ← advance
      skipStatement fuel

mutual

/-- Takes one statement. -/
def parseStatement : Nat → Reader Statement
  | 0 => outOfFuel
  | n + 1 => descend do
    let t ← advance
    match t.1 with
    | .word _ none u =>
      if u == "SELECT" || u == "WITH" || u == "VALUES" then do
        retreat
        let q ← parseQuery n
        pure (.query q)
      else if u == "INSERT" || u == "REPLACE" then parseInsert n
      else if u == "DELETE" then parseDelete n
      else if u == "UPDATE" then parseUpdate n
      else if u == "EXPLAIN" || u == "DESC" then parseExplain n (u == "EXPLAIN")
      else if skippedStatements.contains u then do
        skipStatement (← remaining)
        pure (.other u)
      else expected "an SQL statement" t
    | .sym "(" => do
      retreat
      let q ← parseQuery n
      pure (.query q)
    | _ => expected "an SQL statement" t

/-- Takes an EXPLAIN or DESC after its keyword: options, then a statement or a table. -/
def parseExplain : Nat → Bool → Reader Statement
  | 0, _ => outOfFuel
  | n + 1, isExplain => do
    if (← parseKeywords ["QUERY", "PLAN"]) then pure ()
    else
      let _ ← parseKeyword "ANALYZE"
      let _ ← parseKeyword "VERBOSE"
      if (← parseKeyword "FORMAT") then
        let _ ← expectOneOf ["TEXT", "GRAPHVIZ", "JSON"]
    match (← attempt (parseStatement n)) with
    | some (.other "EXPLAIN") => failWith "Explain must be root of the plan"
    | some _ => pure (.other "EXPLAIN")
    | none => do
      let _ ← parseOneOf ["EXTENDED", "FORMATTED"]
      let _ ← parseObjectName
      pure (.other (if isExplain then "EXPLAIN" else "DESCRIBE"))

end

/-- Takes the statements of a text; `fuel` is given to each statement and `count`
bounds their number. -/
def parseStatements (fuel : Nat) : Nat → Bool → List Statement → Reader (List Statement)
  | 0, _, acc => pure acc.reverse
  | count + 1, expecting, acc => do
    let semis ← repeatSemicolons (← remaining)
    let expecting := expecting && !semis
    let t ← peek
    match t.1 with
    | .eof => pure acc.reverse
    | _ =>
      if expecting && t.1.isKw "END" then pure acc.reverse
      else if expecting then expected "end of statement" t
      else do
        let s ← parseStatement fuel
        parseStatements fuel count true (s :: acc)
where
  /-- Skips semicolons, saying whether there were any. -/
  repeatSemicolons : Nat → Reader Bool
    | 0 => pure false
    | k + 1 => do
      if (← consume ";") then
        let _ ← repeatSemicolons k
        pure true
      else pure false

/-- Reads the statements of a text, or says why it cannot. -/
def parseSql (sql : String) : Except String (List Statement) :=
  match tokenize sql with
  | .error f => .error ("sql parser error: " ++ f.text)
  | .ok toks =>
    let fuel := 20 * toks.size + 2000
    match parseStatements fuel (toks.size + 1) false [] |>.run ⟨toks, 0, nestingLimit⟩ with
    | .ok (stmts, _) => .ok stmts
    | .error f => .error f.text

end Tabula.Sql
