import Tabula.Cli.Run

/-!
# The command

The command line on the real machine.
-/

namespace Tabula.Cli

/-- The system's code for a failed operation, when it gave one. -/
def errorCode : IO.Error → Option UInt32
  | .alreadyExists _ c _ | .otherError c _ | .resourceBusy c _ | .resourceVanished c _
  | .unsupportedOperation c _ | .hardwareFault c _ | .unsatisfiedConstraints c _
  | .illegalOperation c _ | .protocolError c _ | .timeExpired c _ | .interrupted _ c _
  | .noFileOrDirectory _ c _ | .invalidArgument _ c _ | .permissionDenied _ c _
  | .resourceExhausted _ c _ | .inappropriateType _ c _ | .noSuchThing _ c _ => some c
  | .unexpectedEof | .userError _ => none

/-- The system's wording for an error code. -/
def codeText (c : Nat) : String :=
  match c with
  | 1 => "Operation not permitted"
  | 2 => "No such file or directory"
  | 5 => "Input/output error"
  | 13 => "Permission denied"
  | 17 => "File exists"
  | 20 => "Not a directory"
  | 21 => "Is a directory"
  | 22 => "Invalid argument"
  | 28 => "No space left on device"
  | 30 => "Read-only file system"
  | 36 => "File name too long"
  | 40 => "Too many levels of symbolic links"
  | n => "Unknown error " ++ toString n

/-- The message for a failed operation. -/
def systemMessage (e : IO.Error) : String :=
  match errorCode e with
  | some c => codeText c.toNat ++ " (os error " ++ toString c ++ ")"
  | none => toString e

/-- Prints to a stream and flushes it. -/
def printTo (stream : IO (IO.FS.Stream)) (s : String) : IO Unit := do
  let h ← stream
  h.putStr s
  h.flush

/-- The real machine as a host. -/
def systemHost : Host IO where
  readFile path := do
    try
      match String.fromUTF8? (← IO.FS.readBinFile path) with
      | some text => pure (.ok text)
      | none => pure (.error notUtf8Text)
    catch e => pure (.error (systemMessage e))
  tableFile path := do
    try pure (some (.bytes (← IO.FS.readBinFile path).toList))
    catch e =>
      match errorCode e with
      | some 2 | some 20 | some 21 => pure none
      | _ => pure (some (.unreadable (systemMessage e)))
  makeDirs path := do
    if path.isEmpty then return .ok ()
    try
      IO.FS.createDirAll path
      pure (.ok ())
    catch e => pure (.error (systemMessage e))
  writeFile path data := do
    try
      IO.FS.writeBinFile path data.toByteArray
      pure (.ok ())
    catch e => pure (.error (systemMessage e))
  out := printTo IO.getStdout
  err := printTo IO.getStderr

/-- A line as read, without its line feed and a carriage return before it. -/
def chomp (line : String) : String :=
  let cs := line.toList
  let cs := if cs.getLast? == some '\n' then cs.dropLast else cs
  let cs := if cs.getLast? == some '\r' then cs.dropLast else cs
  String.ofList cs

/-- Answers the lines of the standard input as they arrive, then says goodbye. -/
partial def promptLoop (input : IO.FS.Stream) (s : Session) : IO Unit := do
  let line ← input.getLine
  if line.isEmpty then systemHost.out goodbye
  else if ← s.answer systemHost (chomp line) then promptLoop input s
  else systemHost.out goodbye

/-- The variables the command line reads. -/
def variableNames : List String :=
  ["FLATQ_DATA_DIR", "FLATQ_BATCH_SIZE", "FLATQ_DELIMITER", "FLATQ_LOG"]

end Tabula.Cli

/-- Runs the command line and exits with its status. -/
def main (args : List String) : IO UInt32 := do
  let vars ← Tabula.Cli.variableNames.mapM fun k => do pure (k, ← IO.getEnv k)
  let input ← IO.getStdin
  let status ← Tabula.Cli.program Tabula.Cli.systemHost (fun k => (vars.lookup k).join) args
    (Tabula.Cli.promptLoop input)
  pure status.toUInt32
