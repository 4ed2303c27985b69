/-!
# Command-line arguments

Four options with values and two flags, read left to right; the first problem found is
reported in the usual layout (`error: ...`, a tip, the usage line, a pointer to `--help`).
-/

namespace Tabula.Cli

/-- What an option sets or does. -/
inductive Role where
  | dataDir
  | config
  | logLevel
  | command
  | help
  | version
deriving DecidableEq, Repr, Inhabited

/-- An option: what it does, its letter, its long name, the name of its value for one
that takes a value, and whether that value is a path (which must not be empty). -/
structure Spec where
  role : Role
  short : Option Char
  long : String
  value : Option String
  path : Bool
deriving Inhabited

/-- The options, in the order help lists them. -/
def specs : List Spec :=
  [⟨.dataDir, some 'd', "data-dir", some "DIR", true⟩,
   ⟨.config, none, "config", some "FILE", true⟩,
   ⟨.logLevel, none, "log-level", some "LEVEL", false⟩,
   ⟨.command, some 'c', "command", some "SQL", false⟩,
   ⟨.help, some 'h', "help", none, false⟩,
   ⟨.version, some 'V', "version", none, false⟩]

/-- The option playing a role. -/
def Role.spec (r : Role) : Spec :=
  (specs.find? (·.role == r)).getD default

/-- How an option is named in messages: its long name and its value's name. -/
def Spec.display (s : Spec) : String :=
  "--" ++ s.long ++ match s.value with
    | some v => " <" ++ v ++ ">"
    | none => ""

/-- The options given on the command line. -/
structure Options where
  dataDir : Option String := none
  config : Option String := none
  logLevel : Option String := none
  command : Option String := none
deriving Inhabited, Repr

/-- What the arguments ask for. -/
inductive Request where
  /-- Run with these options. -/
  | run (o : Options)
  /-- Print help, the long form or the short one. -/
  | help (long : Bool)
  /-- Print the version. -/
  | version
  /-- Refuse the arguments with this text. -/
  | refused (text : String)
deriving Inhabited, Repr

/-- The usage line, naming the options given so far, or `[OPTIONS]` when none. -/
def usage (given : List Role) : String :=
  if given.isEmpty then "Usage: flatq [OPTIONS]"
  else "Usage: flatq " ++ " ".intercalate (given.map fun r => r.spec.display)

/-- The end of every refusal. -/
def moreHelp : String := "\n\nFor more information, try '--help'.\n"

/-- The refusal of an argument that is no option. -/
def unexpected (arg : String) (tip : Option String) (given : List Role) : Request :=
  let tipText := match tip with
    | some t => "\n\n  tip: a similar argument exists: '" ++ t ++ "'"
    | none => ""
  .refused ("error: unexpected argument '" ++ arg ++ "' found" ++ tipText ++ "\n\n" ++
    usage given ++ moreHelp)

/-- The refusal of an option left without a value. -/
def missingValue (s : Spec) : Request :=
  .refused ("error: a value is required for '" ++ s.display ++ "' but none was supplied" ++ moreHelp)

/-- The refusal of an option given twice. -/
def repeated (s : Spec) : Request :=
  .refused ("error: the argument '" ++ s.display ++ "' cannot be used multiple times\n\n" ++
    usage [] ++ moreHelp)

/-- The refusal of a value given to a flag. -/
def unneeded (s : Spec) (v : String) (given : List Role) : Request :=
  .refused ("error: unexpected value '" ++ v ++ "' for '" ++ s.display ++
    "' found; no more were expected\n\n" ++ usage given ++ moreHelp)

/-! ## Suggestions -/

/-- Marks the first character of `b` within `range` of position `i` that equals `c` and
is not marked yet; says whether one was found. -/
def markMatch (b : Array Char) (taken : Array Bool) (lo hi : Nat) (c : Char) : Option (Array Bool) :=
  match (List.range' lo (hi - lo)).find? (fun j => b[j]? == some c && taken[j]? == some false) with
  | some j => some (taken.set! j true)
  | none => none

/-- The Jaro similarity of two texts: the share of characters that match within half
the longer length, corrected by half the matched characters out of order. -/
def jaro (a b : List Char) : Float :=
  let la := a.length
  let lb := b.length
  if la == 0 && lb == 0 then 1.0
  else if la == 0 || lb == 0 then 0.0
  else
    let range := max la lb / 2 - 1
    let bs := b.toArray
    let (aTaken, bTaken) := (a.zipIdx.foldl
      (fun (acc : List Bool × Array Bool) (p : Char × Nat) =>
        let (c, i) := p
        let lo := i - range
        let hi := min lb (i + range + 1)
        match markMatch bs acc.2 lo hi c with
        | some taken => (true :: acc.1, taken)
        | none => (false :: acc.1, acc.2))
      ([], Array.replicate lb false))
    let aMatched := (a.zip aTaken.reverse).filterMap fun (c, t) => if t then some c else none
    let bMatched := (b.zip bTaken.toList).filterMap fun (c, t) => if t then some c else none
    let m := aMatched.length
    if m == 0 then 0.0
    else
      let t := ((aMatched.zip bMatched).filter fun (x, y) => x != y).length / 2
      (m.toFloat / la.toFloat + m.toFloat / lb.toFloat + (m - t).toFloat / m.toFloat) / 3.0

/-- The long option most similar to a mistyped one, when one is similar enough; among
equally similar ones, the last listed. -/
def suggestion (name : String) : Option Spec :=
  (specs.foldl (fun (best : Option (Spec × Float)) s =>
    let score := jaro name.toList s.long.toList
    if score > 0.7 then
      match best with
      | some (_, top) => if score ≥ top then some (s, score) else best
      | none => some (s, score)
    else best) none).map (·.1)

/-! ## Reading the arguments -/

/-- Where the reading of the arguments stands. -/
structure Scan where
  /-- The options given so far. -/
  opts : Options := {}
  /-- The options given so far, in the order first given. -/
  given : List Role := []
  /-- An option still waiting for its value. -/
  pending : Option Spec := none
  /-- Whether `--` has been read. -/
  escaped : Bool := false
deriving Inhabited

/-- Settles the option waiting for its value: with none given, the arguments are
refused. -/
def Scan.resolve (st : Scan) : Except Request Scan :=
  match st.pending with
  | some p => .error (missingValue p)
  | none => .ok st

/-- Records an option's value. -/
def Scan.give (st : Scan) (s : Spec) (v : String) : Except Request Scan := do
  let st ← st.resolve
  if st.given.contains s.role then throw (repeated s)
  if s.path && v.isEmpty then throw (missingValue s)
  let opts := match s.role with
    | .dataDir => { st.opts with dataDir := some v }
    | .config => { st.opts with config := some v }
    | .logLevel => { st.opts with logLevel := some v }
    | .command => { st.opts with command := some v }
    | _ => st.opts
  pure { st with opts, given := st.given ++ [s.role] }

/-- Acts on a flag: help or the version. -/
def Scan.flag (st : Scan) (s : Spec) (long : Bool) : Except Request Scan := do
  let _ ← st.resolve
  match s.role with
  | .version => throw .version
  | _ => throw (.help long)

/-- Reads an argument that starts with `--`, given what follows the dashes. -/
def Scan.longArg (st : Scan) (body : String) : Except Request Scan :=
  let cs := body.toList
  let name := String.ofList (cs.takeWhile (· != '='))
  let value := if cs.contains '=' then some (String.ofList ((cs.dropWhile (· != '=')).drop 1)) else none
  match specs.find? (·.long == name) with
  | some s =>
    match s.value, value with
    | some _, some v => st.give s v
    | some _, none => do
      let st ← st.resolve
      pure { st with pending := some s }
    | none, some v => .error (unneeded s v (st.given ++ [s.role]))
    | none, none => st.flag s true
  | none =>
    let tip := suggestion name
    let given := match tip with
      | some t => if st.given.contains t.role then st.given else st.given ++ [t.role]
      | none => st.given
    .error (unexpected ("--" ++ name) (tip.map fun t => "--" ++ t.long) given)

/-- Reads an argument that starts with a single `-`, given the letters after it. -/
def Scan.shortArg (st : Scan) (letters : List Char) : Except Request Scan :=
  match letters with
  | [] => .ok st
  | c :: rest =>
    match specs.find? (·.short == some c) with
    | some s =>
      if s.value.isSome then
        if rest.isEmpty then do
          let st ← st.resolve
          pure { st with pending := some s }
        else
          let v := match rest with
            | '=' :: more => more
            | _ => rest
          st.give s (String.ofList v)
      else st.flag s false
    | none => .error (unexpected (String.ofList ['-', c]) none [])

/-- Reads one argument. -/
def Scan.step (st : Scan) (arg : String) : Except Request Scan :=
  if st.escaped then .error (unexpected arg none [])
  else if arg == "--" then .ok { st with escaped := true }
  else if arg.startsWith "--" then st.longArg (String.ofList (arg.toList.drop 2))
  else if arg.startsWith "-" && arg.length > 1 then st.shortArg (arg.toList.drop 1)
  else
    match st.pending with
    | some s => ({ st with pending := none }).give s arg
    | none => .error (unexpected arg none [])

/-- Reads the arguments that remain. -/
def Scan.finish (st : Scan) : List String → Except Request Scan
  | [] => st.resolve
  | a :: rest => do
    let st ← st.step a
    st.finish rest

/-- What a list of arguments asks for. -/
def parseArgs (args : List String) : Request :=
  match ({} : Scan).finish args with
  | .ok st => .run st.opts
  | .error r => r

end Tabula.Cli
