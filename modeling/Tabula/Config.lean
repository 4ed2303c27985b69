import Tabula.Error
import Tabula.Text.Blank
import Tabula.Json.Basic

/-!
# Engine settings

The data folder, the batch size and the CSV delimiter, from defaults, variables or a
JSON file, and their check.
-/

namespace Tabula

/-- The settings of an engine. -/
structure Config where
  dataDir : String := "."
  batchSize : Nat := 1024
  delimiter : Char := ','
deriving Inhabited, Repr

/-- Whether a character is shown escaped when quoted for a message: controls, format
characters, combining marks and private use characters. -/
def Config.escapedInMessage (c : Char) : Bool :=
  let n := c.toNat
  n < 0x20 || (0x7F ≤ n && n ≤ 0x9F) || n == 0xAD || (0x300 ≤ n && n ≤ 0x36F) ||
    (0x200B ≤ n && n ≤ 0x200F) || (0x2028 ≤ n && n ≤ 0x202E) || (0x2060 ≤ n && n ≤ 0x2064) ||
    n == 0xFEFF || (0xE000 ≤ n && n ≤ 0xF8FF)

/-- The lower-case hex digits of a number, at least one. -/
def hexDigits (n : Nat) : String :=
  String.ofList (Nat.toDigits 16 n)

/-- A character in single quotes, escaped the way messages show it. -/
def quoteChar (c : Char) : String :=
  let inner :=
    if c == '\t' then "\\t"
    else if c == '\r' then "\\r"
    else if c == '\n' then "\\n"
    else if c == '\\' then "\\\\"
    else if c == '\'' then "\\'"
    else if c.toNat == 0 then "\\0"
    else if Config.escapedInMessage c then "\\u" ++ "\x7b" ++ hexDigits c.toNat ++ "\x7d"
    else String.ofList [c]
  "'" ++ inner ++ "'"

namespace Config

/-- Checks the settings. -/
def validate (c : Config) : Except Error Unit :=
  if c.batchSize == 0 then .error (.config "batch_size must be at least 1")
  else if c.delimiter.toNat ≥ 128 || c.delimiter == '"' || c.delimiter == '\n' || c.delimiter == '\r' then
    .error (.config ("delimiter must be a single ASCII character other than quote or newline, got " ++
      quoteChar c.delimiter))
  else .ok ()

/-- The value of a count written in decimal with an optional `+`, below `2 ^ 64`. -/
def readCount? (s : String) : Option Nat :=
  let ds := match s.toList with
    | '+' :: rest => rest
    | cs => cs
  if ds.isEmpty || !ds.all Char.isDigit then none
  else
    let n := ds.foldl (fun n c => 10 * n + (c.toNat - 48)) 0
    if n < Nat.pow 2 64 then some n else none

/-- The settings given by variables looked up by name, over the defaults. -/
def fromLookup (lookup : String → Option String) : Except Error Config := do
  let c : Config := {}
  let c := match lookup "FLATQ_DATA_DIR" with
    | some d => { c with dataDir := d }
    | none => c
  let c ← match lookup "FLATQ_BATCH_SIZE" with
    | some s =>
      match readCount? (Text.trim s) with
      | some n => pure { c with batchSize := n }
      | none => throw (.config ("FLATQ_BATCH_SIZE must be an integer, got '" ++ s ++ "'"))
    | none => pure c
  let c ← match lookup "FLATQ_DELIMITER" with
    | some s =>
      match s.toList with
      | [d] => pure { c with delimiter := d }
      | _ => throw (.config ("FLATQ_DELIMITER must be a single character, got '" ++ s ++ "'"))
    | none => pure c
  validate c
  pure c

/-- The settings as a JSON document, in the order they are saved. -/
def toJson (c : Config) : Json :=
  .obj [("data_dir", .str c.dataDir), ("batch_size", .int c.batchSize),
    ("delimiter", .str (String.ofList [c.delimiter]))]

/-- The text a settings file is saved as. -/
def saveText (c : Config) : String :=
  Json.pretty c.toJson

end Config

end Tabula
