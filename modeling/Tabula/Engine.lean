import Tabula.Plan
import Tabula.Store
import Tabula.Config
import Tabula.Sql.Lower

/-!
# The engine

A database is a store with its settings; it runs SELECT, INSERT and DELETE, chosen by
the statement's first word, and wraps every failure of a SELECT once.
-/

namespace Tabula

/-- The acknowledgement of a statement that changes a table. -/
structure Ack where
  message : String
  rowsAffected : Nat
deriving Inhabited, Repr

/-- What a statement gives back: rows, or an acknowledgement. -/
inductive Outcome where
  | rows (rs : List Row)
  | ack (a : Ack)
deriving Inhabited

/-- The message of a successful INSERT. -/
def insertAck : String := "Insertion successful."

/-- The message of a successful DELETE. -/
def deleteAck : String := "Deletion successful."

/-- A store of tables with the settings it is run with. -/
structure Database where
  store : Store
  config : Config
deriving Inhabited

namespace Database

/-- Opens a database on a store after checking its settings. -/
def open_ (store : Store) (config : Config) : Except Error Database := do
  config.validate
  pure ⟨store, config⟩

/-- Runs a SELECT description, without wrapping its failures. -/
def runQuery (db : Database) (q : Query) : Except Error (List Row) := do
  let main ← db.store.load q.table
  let joined ← match q.join with
    | some j => some <$> db.store.load j.table
    | none => pure none
  (Plan.select db.config.batchSize q main joined).drain

/-- Wraps the failure of a SELECT. -/
def wrapped {α : Type} : Except Error α → Except Error α
  | .ok a => .ok a
  | .error e => .error e.wrapQuery

/-- Runs a SELECT description. -/
def executeQuery (db : Database) (q : Query) : Except Error (List Row) :=
  wrapped (db.runQuery q)

/-- Runs a SELECT text. -/
def executeSelect (db : Database) (sql : String) : Except Error (List Row) :=
  match Sql.planSelect sql with
  | .ok q => db.executeQuery q
  | .error e => .error e.wrapQuery

/-- Appends one row to a table; the names and values must pair up. -/
def applyInsert (db : Database) (i : Insertion) : Except Error (Ack × Database) := do
  if i.columns.length != i.values.length then
    throw (.sqlParse ("INSERT has " ++ toString i.columns.length ++ " columns but " ++
      toString i.values.length ++ " values") ("INSERT INTO " ++ i.table))
  let rows ← db.store.load i.table
  let rows := rows ++ [Row.ofPairs (i.columns.zip i.values)]
  let store ← db.store.save i.table rows
  pure (⟨insertAck, 1⟩, { db with store })

/-- Runs an INSERT text. -/
def executeInsert (db : Database) (sql : String) : Except Error (Ack × Database) := do
  db.applyInsert (← Sql.planInsert sql)

/-- Removes the rows of a table that meet every condition; with no conditions, all. -/
def applyDelete (db : Database) (d : Deletion) : Except Error (Ack × Database) := do
  let rows ← db.store.load d.table
  let kept ← if d.conditions.isEmpty then pure [] else (Plan.delete db.config.batchSize d rows).drain
  let store ← db.store.save d.table kept
  pure (⟨deleteAck, rows.length - kept.length⟩, { db with store })

/-- Runs a DELETE text. -/
def executeDelete (db : Database) (sql : String) : Except Error (Ack × Database) := do
  db.applyDelete (← Sql.planDelete sql)

/-- Runs a statement, chosen by its first word. -/
def execute (db : Database) (sql : String) : Except Error (Outcome × Database) :=
  match Sql.StatementKind.detect sql with
  | some .select => (db.executeSelect sql).map fun rs => (.rows rs, db)
  | some .insert => (db.executeInsert sql).map fun (a, db) => (.ack a, db)
  | some .delete => (db.executeDelete sql).map fun (a, db) => (.ack a, db)
  | none =>
    .error (.sqlNotSupported (Text.toUpper ((Text.words sql).headD ""))
      "Supported statements: SELECT, INSERT, DELETE")

end Database

end Tabula
