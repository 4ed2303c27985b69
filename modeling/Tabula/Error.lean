/-!
# Errors

The failures of the library and their messages.
-/

namespace Tabula

/-- The causes of failure. -/
inductive Error where
  /-- A table name that cannot name a file, or another storage refusal. -/
  | storage (msg : String)
  | tableNotFound (table : String)
  | io (msg : String)
  | csv (msg : String)
  /-- SQL text that cannot be read or planned, with the text concerned. -/
  | sqlParse (msg sql : String)
  | sqlNotSupported (feature hint : String)
  | invalidField (field : String)
  | unsupportedOperator (op : String)
  | unsupportedJoinType (kind : String)
  | queryExecution (cause : Error)
  | config (msg : String)
  | serialization (msg : String)
deriving Inhabited, Repr, BEq

namespace Error

/-- The message of an error. -/
def message : Error → String
  | .storage m => "storage error: " ++ m
  | .tableNotFound t => "table '" ++ t ++ "' not found"
  | .io m => "io error: " ++ m
  | .csv m => "csv error: " ++ m
  | .sqlParse m sql => "SQL parse error: " ++ m ++ "\nSQL: " ++ sql
  | .sqlNotSupported f h => "SQL feature not supported: " ++ f ++ "\nHint: " ++ h
  | .invalidField f => "Invalid field: " ++ f
  | .unsupportedOperator o => "Unsupported operator: " ++ o
  | .unsupportedJoinType k => "Unsupported JOIN type: " ++ k
  | .queryExecution e => "query execution failed: " ++ e.message
  | .config m => "config error: " ++ m
  | .serialization m => "serialization error: " ++ m

/-- Wraps an error as a failed query, unless it already is one. -/
def wrapQuery : Error → Error
  | .queryExecution e => .queryExecution e
  | e => .queryExecution e

/-- The innermost error, under every query wrapper. -/
def rootCause : Error → Error
  | .queryExecution e => e.rootCause
  | e => e

/-- Whether the root cause lies with the storage. -/
def isStorage (e : Error) : Bool :=
  match e.rootCause with
  | .storage _ | .tableNotFound _ | .io _ | .csv _ => true
  | _ => false

/-- A feature outside the supported SQL, with a hint. -/
def notSupported (feature hint : String) : Error :=
  .sqlNotSupported feature hint

end Error

end Tabula
