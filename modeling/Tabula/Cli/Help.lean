import Tabula.Cli.Args

/-!
# Help and version

The version line and the help in its short (`-h`) and long (`--help`) forms.
-/

namespace Tabula.Cli

/-- The version line. -/
def versionText : String := "flatq 0.0.1-beta\n"

/-- The one-line description. -/
def about : String := "Run SELECT / INSERT / DELETE against CSV files"

/-- The full description. -/
def longAbout : String :=
  "flatq command-line interface\n\n" ++
  "Every <table> in a statement maps to <data-dir>/<table>.csv.\n\n" ++
  "USAGE MODES:\n" ++
  "  Interactive prompt:  flatq --data-dir ./data\n" ++
  "  Single statement:    flatq --data-dir ./data -c \"SELECT * FROM users\"\n\n" ++
  "Type " ++ String.ofList [Char.ofNat 96] ++ "exit" ++ String.ofList [Char.ofNat 96] ++
  " at the prompt to quit."

/-- An option's description, in the short form or the long one. -/
def Role.describe (long : Bool) : Role → String
  | .dataDir => "Directory holding the <table>.csv files (overrides the config file)"
  | .config => "JSON engine config file; FLATQ_* environment variables are used otherwise"
  | .logLevel => "Log level written to stderr (trace, debug, info, warn, error)"
  | .command => "Execute one statement and exit"
  | .help => if long then "Print help (see a summary with '-h')" else "Print help (see more with '--help')"
  | .version => "Print version"

/-- The notes after an option's description: the variable it is read from, with its
value, and its default. -/
def Role.notes (logVar : Option String) : Role → List String
  | .logLevel => ["[env: FLATQ_LOG=" ++ logVar.getD "" ++ "]", "[default: warn]"]
  | _ => []

/-- The letter and long name of an option as help shows them. -/
def Spec.heading (s : Spec) : String :=
  "  " ++ (match s.short with
    | some c => String.ofList ['-', c] ++ ", "
    | none => "    ") ++ s.display

/-- Spaces. -/
def spaces (n : Nat) : String := String.ofList (List.replicate n ' ')

/-- The width of the longest option name. -/
def longestDisplay : Nat :=
  specs.foldl (fun w s => max w s.display.length) 0

/-- One option in the short form of help. -/
def Spec.shortEntry (logVar : Option String) (s : Spec) : String :=
  let notes := s.role.notes logVar
  s.heading ++ spaces (longestDisplay + 2 - s.display.length) ++ s.role.describe false ++
    (if notes.isEmpty then "" else " " ++ " ".intercalate notes)

/-- One option in the long form of help. -/
def Spec.longEntry (logVar : Option String) (s : Spec) : String :=
  let notes := s.role.notes logVar
  let body := s.role.describe true ++ (if notes.isEmpty then "" else "\n\n" ++ "\n".intercalate notes)
  let indent := spaces 10
  s.heading ++ "\n" ++ indent ++ ("\n" ++ indent).intercalate (body.splitOn "\n")

/-- The help text, given the value of the log level's variable. -/
def helpText (long : Bool) (logVar : Option String) : String :=
  let entries :=
    if long then "\n\n".intercalate (specs.map (Spec.longEntry logVar))
    else "\n".intercalate (specs.map (Spec.shortEntry logVar))
  (if long then longAbout else about) ++ "\n\n" ++ usage [] ++ "\n\nOptions:\n" ++ entries ++ "\n"

end Tabula.Cli
