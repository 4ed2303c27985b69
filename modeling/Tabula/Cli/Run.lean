import Tabula.Engine
import Tabula.ConfigFile
import Tabula.Json.Value
import Tabula.Cli.Help
import Tabula.Cli.World

/-!
# Running the command line

A run reads its arguments and settings, creates the data folder, then runs the one
statement given with `-c` or answers the lines of a prompt until `exit`.
-/

namespace Tabula.Cli

/-- The settings asked for by the options: from the settings file if one is named,
else from the variables, with the data folder from the options if given. -/
def settings {m : Type → Type} [Monad m] (host : Host m) (env : String → Option String)
    (o : Options) : m (Except Error Config) := do
  let loaded ← match o.config with
    | some path => do
      match ← host.readFile path with
      | .error msg => pure (.error (.io msg))
      | .ok text => pure (ConfigFile.load text)
    | none => pure (Config.fromLookup env)
  pure (loaded.map fun c =>
    match o.dataDir with
    | some d => { c with dataDir := d }
    | none => c)

/-- A database folder opened from the command line. -/
structure Session where
  /-- The folder the tables are kept in. -/
  root : String
  /-- The settings it runs with. -/
  config : Config
deriving Inhabited

/-- Opens the data folder the settings name, creating it if needed. -/
def openSession {m : Type → Type} [Monad m] (host : Host m) (c : Config) :
    m (Except Error Session) := do
  match c.validate with
  | .error e => pure (.error e)
  | .ok () =>
    match ← host.makeDirs c.dataDir with
    | .error msg => pure (.error (.io msg))
    | .ok () => pure (.ok ⟨c.dataDir, c⟩)

/-- A file inside a folder. -/
def joinPath (dir name : String) : String :=
  if dir.isEmpty then name
  else if dir.endsWith "/" then dir ++ name
  else dir ++ "/" ++ name

/-- The tables a statement reads or writes, when it can be planned. -/
def statementTables (sql : String) : List String :=
  match Sql.StatementKind.detect sql with
  | some .select =>
    match Sql.planSelect sql with
    | .ok q => q.table :: (q.join.map (·.table)).toList
    | .error _ => []
  | some .insert =>
    match Sql.planInsert sql with
    | .ok i => [i.table]
    | .error _ => []
  | some .delete =>
    match Sql.planDelete sql with
    | .ok d => [d.table]
    | .error _ => []
  | none => []

/-- Writes back the files a statement changed. -/
def writeBack {m : Type → Type} [Monad m] (host : Host m) (root : String)
    (before : List (String × FileRead)) : List (String × FileRead) → m (Except Error Unit)
  | [] => pure (.ok ())
  | (f, file) :: rest => do
    match file, before.lookup f == some file with
    | .bytes data, false =>
      match ← host.writeFile (joinPath root f) data with
      | .error msg => pure (.error (.io msg))
      | .ok () => writeBack host root before rest
    | _, _ => writeBack host root before rest

/-- The text a statement's answer is printed as. -/
def answerText : Outcome → String
  | .rows rs => "Query Result:\n" ++ Json.pretty (.arr (rs.map Row.toJson))
  | .ack a => a.message

/-- Runs one statement against the folder and gives the text of its answer. -/
def Session.render {m : Type → Type} [Monad m] (host : Host m) (s : Session) (sql : String) :
    m (Except Error String) := do
  match Sql.StatementKind.detect sql with
  | none => pure (.ok ("Unsupported command: " ++ Text.toUpper ((Text.words sql).headD "")))
  | some _ =>
    let names := ((statementTables sql).map Store.fileName).eraseDups
    let files ← names.filterMapM fun f => do
      pure ((← host.tableFile (joinPath s.root f)).map fun file => (f, file))
    let db : Database := ⟨.folder s.config.delimiter files, s.config⟩
    match db.execute sql with
    | .error e => pure (.error e)
    | .ok (outcome, db) =>
      let after := match db.store with
        | .folder _ fs => fs
        | .memory _ => []
      match ← writeBack host s.root files after with
      | .error e => pure (.error e)
      | .ok () => pure (.ok (answerText outcome))

/-- Runs the statement given with `-c` and gives the run's status. -/
def Session.runCommand {m : Type → Type} [Monad m] (host : Host m) (s : Session) (sql : String) :
    m Nat := do
  match ← s.render host sql with
  | .ok text =>
    host.out (text ++ "\n")
    pure 0
  | .error e =>
    host.err ("Error: " ++ e.message ++ "\n")
    pure 1

/-- The greeting of the prompt. -/
def greeting : String := "flatq SQL prompt. Enter SQL statements, or type \"exit\" to quit.\n"

/-- The prompt. -/
def promptText : String := "SQL> "

/-- The goodbye of the prompt. -/
def goodbye : String := "\nExiting flatq\n"

/-- Answers one line read at the prompt; false when the line asks to stop. -/
def Session.answer {m : Type → Type} [Monad m] (host : Host m) (s : Session) (line : String) :
    m Bool := do
  let sql := Text.trim line
  if Text.toUpperAscii sql == "EXIT" then return false
  if !sql.isEmpty then
    match ← s.render host sql with
    | .ok text => host.out (text ++ "\n")
    | .error e => host.err ("Error: " ++ e.message ++ "\n")
  host.out promptText
  pure true

/-- Answers the lines read at the prompt until one asks to stop, then says goodbye. -/
def Session.converse {m : Type → Type} [Monad m] (host : Host m) (s : Session) :
    List String → m Unit
  | [] => host.out goodbye
  | line :: rest => do
    if ← s.answer host line then s.converse host rest
    else host.out goodbye

/-- A whole run: the arguments, the variables, and how the prompt reads its lines;
gives the run's status. -/
def program {m : Type → Type} [Monad m] (host : Host m) (env : String → Option String)
    (args : List String) (prompt : Session → m Unit) : m Nat := do
  match parseArgs args with
  | .help long =>
    host.out (helpText long (env "FLATQ_LOG"))
    pure 0
  | .version =>
    host.out versionText
    pure 0
  | .refused text =>
    host.err text
    pure 2
  | .run o =>
    let opened ← do
      match ← settings host env o with
      | .error e => pure (.error e)
      | .ok c => openSession host c
    match opened with
    | .error e =>
      host.err ("Error: " ++ e.message ++ "\n")
      pure 1
    | .ok s =>
      match o.command with
      | some sql => s.runCommand host sql
      | none => do
        host.out (greeting ++ promptText)
        prompt s
        pure 0

/-- The lines of an input: split at line feeds, a carriage return before a line feed
dropped, and no empty line after a final line feed or in an empty input. -/
def inputLines (text : String) : List String :=
  if text.isEmpty then [] else
  let pieces := text.splitOn "\n"
  let pieces := if text.endsWith "\n" then pieces.dropLast else pieces
  let full := pieces.length - (if text.endsWith "\n" then 0 else 1)
  pieces.zipIdx.map fun (p, i) =>
    if i < full && p.endsWith "\r" then String.ofList p.toList.dropLast else p

/-- A whole run on a model machine, with the prompt reading the given input; gives the
status and the machine afterwards. -/
def simulate (w : World) (env : String → Option String) (args : List String) (input : String) :
    Nat × World :=
  (program World.host env args fun s => s.converse World.host (inputLines input)).run w

end Tabula.Cli
