import Tabula.Sql.Cursor
import Tabula.Sql.Syntax
import Tabula.Sql.Print

/-!
# Names, values and type names
-/

namespace Tabula.Sql

/-- Takes an identifier: a word, quoted or not, or a single-quoted string. -/
def parseIdentifier : Reader Ident := do
  let t ← advance
  match t.1 with
  | .word v q _ => pure ⟨v, q⟩
  | .str .single s => pure ⟨s, some '\''⟩
  | _ => expected "identifier" t

/-- Takes a dotted name. -/
def parseObjectName : Reader (List Ident) := do
  sepBy1 parseIdentifier "." (← remaining)

/-- Takes an alias: after AS any identifier, otherwise a word that is not reserved in
this place, or a single-quoted string. -/
def parseOptionalAlias (reserved : List String) : Reader (Option Ident) := do
  let afterAs ← parseKeyword "AS"
  let t ← advance
  match t.1 with
  | .word v q u =>
    if afterAs || q.isSome || !reserved.contains u then pure (some ⟨v, q⟩)
    else
      retreat
      pure none
  | .str .single s => pure (some ⟨s, some '\''⟩)
  | _ =>
    if afterAs then expected "an identifier after AS" t
    else
      retreat
      pure none

/-- Takes an optional parenthesised list of identifiers. -/
def parseOptionalColumns : Reader (List Ident) := do
  if (← consume "(") then
    let cols ← commaSep parseIdentifier
    expectSym ")"
    pure cols
  else pure []

/-- Takes an optional table alias with its column names. -/
def parseOptionalTableAlias : Reader (Option TableAlias) := do
  match (← parseOptionalAlias reservedForTableAlias) with
  | some name =>
    let cols ← parseOptionalColumns
    pure (some ⟨name, cols⟩)
  | none => pure none

/-- The value of a string of decimal digits, if it is one. -/
def decimalValue? (s : String) : Option Nat :=
  if s.isEmpty || !s.toList.all Char.isDigit then none
  else some (s.toList.foldl (fun n c => 10 * n + (c.toNat - 48)) 0)

/-- Takes an unsigned 64-bit integer written as a number. -/
def parseLiteralUint : Reader Nat := do
  let t ← advance
  match t.1 with
  | .number s _ =>
    match decimalValue? s with
    | some n =>
      if n < Nat.pow 2 64 then pure n
      else failWith ("Could not parse '" ++ s ++ "' as u64: number too large to fit in target type" ++ t.2.suffix)
    | none => failWith ("Could not parse '" ++ s ++ "' as u64: invalid digit found in string" ++ t.2.suffix)
  | _ => expected "literal int" t

/-- Takes a literal string: a word that is not a keyword, or a plain, escaped or
Unicode string. -/
def parseLiteralString : Reader String := do
  let t ← advance
  match t.1 with
  | .word v none u => if isKeyword u then expected "literal string" t else pure v
  | .word v (some _) _ => pure v
  | .str .single s => pure s
  | .str .escaped s => pure s
  | .str .unicode s => pure s
  | _ => expected "literal string" t

/-- The literal of a quoted string token. -/
def Literal.ofStr : StrKind → String → Literal
  | .single, s => .single s
  | .national, s => .national s
  | .escaped, s => .escaped s
  | .unicode, s => .unicode s
  | .hex, s => .hex s
  | .byteSingle, s => .byteSingle s
  | .byteDouble, s => .byteDouble s
  | .rawSingle, s => .rawSingle s
  | .rawDouble, s => .rawDouble s

/-- Takes a literal value. -/
def parseValue : Reader Literal := do
  let t ← advance
  match t.1 with
  | .word _ none u =>
    if u == "TRUE" then pure (.boolean true)
    else if u == "FALSE" then pure (.boolean false)
    else if u == "NULL" then pure .null
    else expected "a concrete value" t
  | .word _ (some _) _ => expected "A value?" t
  | .number n l => pure (.number n l)
  | .str k s => pure (Literal.ofStr k s)
  | .dollar s => pure (.dollar s)
  | .placeholder s => pure (.placeholder s)
  | .sym p =>
    if p == ":" || p == "@" then
      let n ← advance
      match n.1 with
      | .word v _ _ => pure (.placeholder (p ++ v))
      | .number v false => pure (.placeholder (p ++ v))
      | _ => expected "placeholder" n
    else expected "a value" t
  | _ => expected "a value" t

/-- A data type as it prints, and whether it is a name of the user's. -/
structure DataType where
  text : String
  custom : Bool
deriving Inhabited

/-- A parenthesised part of a type name, when present. -/
def parenthesised : Option String → String
  | some s => "(" ++ s ++ ")"
  | none => ""

/-- Takes an optional parenthesised precision. -/
def parseOptionalPrecision : Reader (Option String) := do
  if (← consume "(") then
    let n ← parseLiteralUint
    expectSym ")"
    pure (some (toString n))
  else pure none

/-- Takes an optional parenthesised character length. -/
def parseOptionalLength : Reader (Option String) := do
  if (← consume "(") then
    let len ← if (← parseKeyword "MAX") then pure "MAX" else do
      let n ← parseLiteralUint
      if (← parseKeyword "CHARACTERS") then pure (toString n ++ " CHARACTERS")
      else if (← parseKeyword "OCTETS") then pure (toString n ++ " OCTETS")
      else pure (toString n)
    expectSym ")"
    pure (some len)
  else pure none

/-- Takes an optional precision and scale. -/
def parseOptionalScale : Reader (Option String) := do
  if (← consume "(") then
    let p ← parseLiteralUint
    let s ← if (← consume ",") then do
      let s ← parseLiteralUint
      pure ("," ++ toString s)
    else pure ""
    expectSym ")"
    pure (some (toString p ++ s))
  else pure none

/-- Takes the time zone part of a time type. -/
def parseTimeZone : Reader String := do
  if (← parseKeywords ["WITH", "TIME", "ZONE"]) then pure " WITH TIME ZONE"
  else if (← parseKeywords ["WITHOUT", "TIME", "ZONE"]) then pure " WITHOUT TIME ZONE"
  else pure ""

/-- Takes an integer type's optional width and UNSIGNED. -/
def integerType (name : String) : Reader DataType := do
  let p ← parseOptionalPrecision
  let u ← parseKeyword "UNSIGNED"
  pure ⟨name ++ parenthesised p ++ (if u then " UNSIGNED" else ""), false⟩

/-- Takes the modifiers of a user's type name, such as `(10, x)`. -/
def parseTypeModifiers : Reader String := do
  if (← consume "(") then
    let ms ← commaSep (do
      let t ← advance
      match t.1 with
      | .word v _ _ => pure v
      | .number n _ => pure n
      | .str .single s => pure s
      | _ => expected "type modifiers" t)
    expectSym ")"
    pure ("(" ++ ", ".intercalate ms ++ ")")
  else pure ""

/-- Takes a built-in type name given its keyword, or `none` when the keyword names no
built-in type. -/
def builtinType (u : String) : Reader (Option DataType) := do
  let plain (s : String) : Reader (Option DataType) := pure (some ⟨s, false⟩)
  let withPrecision (s : String) : Reader (Option DataType) := do
    let p ← parseOptionalPrecision
    pure (some ⟨s ++ parenthesised p, false⟩)
  let withLength (s : String) : Reader (Option DataType) := do
    let p ← parseOptionalLength
    pure (some ⟨s ++ parenthesised p, false⟩)
  let withScale (s : String) : Reader (Option DataType) := do
    let p ← parseOptionalScale
    pure (some ⟨s ++ parenthesised p, false⟩)
  let integral (s : String) : Reader (Option DataType) := do
    pure (some (← integerType s))
  match u with
  | "BOOLEAN" | "BOOL" | "REAL" | "FLOAT4" | "FLOAT64" | "FLOAT8" | "UUID" | "DATE" | "INTERVAL"
  | "JSON" | "JSONB" | "REGCLASS" | "TEXT" | "TINYTEXT" | "MEDIUMTEXT" | "LONGTEXT" | "BYTEA"
  | "TINYBLOB" | "MEDIUMBLOB" | "LONGBLOB" | "INT64" | "TRIGGER" => plain u
  | "FLOAT32" => plain "Float32"
  | "INT16" => plain "Int16"
  | "INT32" => plain "Int32"
  | "INT128" => plain "Int128"
  | "INT256" => plain "Int256"
  | "UINT8" => plain "UInt8"
  | "UINT16" => plain "UInt16"
  | "UINT32" => plain "UInt32"
  | "UINT64" => plain "UInt64"
  | "UINT128" => plain "UInt128"
  | "UINT256" => plain "UInt256"
  | "DATE32" => plain "Date32"
  | "FLOAT" | "CLOB" | "BINARY" | "VARBINARY" | "BLOB" | "BYTES" | "DATETIME" | "TIMESTAMPTZ"
  | "TIMETZ" | "STRING" | "VARBIT" => withPrecision u
  | "DOUBLE" =>
    if (← parseKeyword "PRECISION") then plain "DOUBLE PRECISION" else plain "DOUBLE"
  | "TINYINT" | "INT2" | "SMALLINT" | "MEDIUMINT" | "INT" | "INT4" | "INT8" | "INTEGER"
  | "BIGINT" => integral u
  | "VARCHAR" | "NVARCHAR" => withLength u
  | "CHARACTER" | "CHAR" =>
    if (← parseKeyword "VARYING") then withLength (u ++ " VARYING")
    else if (← parseKeywords ["LARGE", "OBJECT"]) then withPrecision (u ++ " LARGE OBJECT")
    else withLength u
  | "BIT" =>
    if (← parseKeyword "VARYING") then withPrecision "BIT VARYING" else withPrecision "BIT"
  | "TIMESTAMP" | "TIME" => do
    let p ← parseOptionalPrecision
    let tz ← parseTimeZone
    pure (some ⟨u ++ parenthesised p ++ tz, false⟩)
  | "NUMERIC" | "DECIMAL" | "DEC" | "BIGNUMERIC" | "BIGDECIMAL" => withScale u
  | _ => pure none

/-- Takes `[]` or `[n]` suffixes making a type an array type. -/
def parseArraySuffixes (base : String) : Nat → Reader String
  | 0 => pure base
  | fuel + 1 => do
    if (← consume "[") then
      let size ← attempt parseLiteralUint
      expectSym "]"
      parseArraySuffixes (base ++ "[" ++ (size.map toString).getD "" ++ "]") fuel
    else pure base

/-- Takes a data type. -/
def parseDataType : Reader DataType := do
  let t ← advance
  let ty ← match t.1 with
    | .word _ none u =>
      match (← builtinType u) with
      | some ty => pure ty
      | none =>
        retreat
        let name ← parseObjectName
        let mods ← parseTypeModifiers
        pure ⟨renderName name ++ mods, true⟩
    | .word _ (some _) _ =>
      retreat
      let name ← parseObjectName
      let mods ← parseTypeModifiers
      pure ⟨renderName name ++ mods, true⟩
    | _ => expected "a data type name" t
  let text ← parseArraySuffixes ty.text (← remaining)
  pure ⟨text, ty.custom⟩

end Tabula.Sql
