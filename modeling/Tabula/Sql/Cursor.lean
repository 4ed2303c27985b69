import Tabula.Sql.Token
import Tabula.Sql.Keywords

/-!
# Reading a token stream

A reader over located tokens whose steps fail with a message or at the nesting limit of
fifty; an attempt that fails puts the reader back.
-/

namespace Tabula.Sql

/-- Why reading failed. -/
inductive Fault where
  | msg (text : String)
  | recursion
deriving Inhabited, Repr

/-- The message of a failure, as the reader reports it. -/
def Fault.text : Fault → String
  | .msg t => "sql parser error: " ++ t
  | .recursion => "sql parser error: recursion limit exceeded"

/-- The place of the reader in the tokens, and how much deeper it may nest. -/
structure Cursor where
  toks : Array Located
  pos : Nat
  depth : Nat
deriving Inhabited

/-- How deep statements, queries and subexpressions may nest. -/
def nestingLimit : Nat := 50

/-- A reading step. -/
abbrev Reader := StateT Cursor (Except Fault)

/-- The token that stands for the end of the text. -/
def endToken : Located := (.eof, ⟨0, 0⟩)

/-- The token `k` places ahead, without moving. -/
def peekAt (k : Nat) : Reader Located := do
  let s ← get
  pure ((s.toks[s.pos + k]?).getD endToken)

/-- The next token, without moving. -/
def peek : Reader Located := peekAt 0

/-- Takes the next token; past the end it keeps taking the end token. -/
def advance : Reader Located := do
  let s ← get
  set { s with pos := s.pos + 1 }
  pure ((s.toks[s.pos]?).getD endToken)

/-- Steps back over one token. -/
def retreat : Reader Unit :=
  modify fun s => { s with pos := s.pos - 1 }

/-- How many tokens are left, plus one: a bound on how often a list can go on. -/
def remaining : Reader Nat := do
  let s ← get
  pure (s.toks.size - s.pos + 1)

/-- Fails with a message. -/
def failWith {α : Type} (msg : String) : Reader α :=
  throw (.msg msg)

/-- Fails saying what was expected and which token was found instead. -/
def expected {α : Type} (what : String) (t : Located) : Reader α :=
  failWith ("Expected: " ++ what ++ ", found: " ++ t.1.render ++ t.2.suffix)

/-- Whether the next token is the keyword `k`. -/
def peekKeyword (k : String) : Reader Bool := do
  pure ((← peek).1.isKw k)

/-- Takes the keyword `k` if it is next. -/
def parseKeyword (k : String) : Reader Bool := do
  if (← peek).1.isKw k then
    let _ ← advance
    pure true
  else pure false

/-- Takes the keywords in order if all of them come next, and otherwise nothing. -/
def parseKeywords (ks : List String) : Reader Bool := do
  let saved ← get
  let rec go : List String → Reader Bool
    | [] => pure true
    | k :: rest => do
      if (← parseKeyword k) then go rest else pure false
  if (← go ks) then pure true
  else
    set saved
    pure false

/-- Takes the next token if it is one of the keywords, and says which. -/
def parseOneOf (ks : List String) : Reader (Option String) := do
  match (← peek).1 with
  | .word _ none u =>
    if ks.contains u then
      let _ ← advance
      pure (some u)
    else pure none
  | _ => pure none

/-- Takes the keyword `k`, which must come next. -/
def expectKeyword (k : String) : Reader Unit := do
  if (← parseKeyword k) then pure () else expected k (← peek)

/-- Takes the keywords `ks` in order, which must come next. -/
def expectKeywords : List String → Reader Unit
  | [] => pure ()
  | k :: ks => do
    expectKeyword k
    expectKeywords ks

/-- Takes one of the keywords, which must come next. -/
def expectOneOf (ks : List String) : Reader String := do
  match (← parseOneOf ks) with
  | some k => pure k
  | none => expected ("one of " ++ " or ".intercalate ks) (← peek)

/-- Takes the symbol `s` if it is next. -/
def consume (s : String) : Reader Bool := do
  if (← peek).1.isSym s then
    let _ ← advance
    pure true
  else pure false

/-- Takes the symbol `s`, which must come next. -/
def expectSym (s : String) : Reader Unit := do
  if (← consume s) then pure () else expected s (← peek)

/-- Runs a step one level deeper, failing when the nesting limit is reached. -/
def descend {α : Type} (p : Reader α) : Reader α := do
  let s ← get
  if s.depth == 0 then throw .recursion
  set { s with depth := s.depth - 1 }
  let r ← p
  modify fun s => { s with depth := s.depth + 1 }
  pure r

/-- Runs a step; when it fails with a message the reader is put back and the result is
`none`. -/
def attempt {α : Type} (p : Reader α) : Reader (Option α) := fun s =>
  match p s with
  | .ok (a, s') => .ok (some a, s')
  | .error .recursion => .error .recursion
  | .error (.msg _) => .ok (none, s)

/-- Items separated by a symbol, at least one; `fuel` bounds their number. -/
def sepBy1 {α : Type} (item : Reader α) (sep : String) : Nat → Reader (List α)
  | 0 => pure []
  | fuel + 1 => do
    let x ← item
    if (← consume sep) then
      let rest ← sepBy1 item sep fuel
      pure (x :: rest)
    else pure [x]

/-- Items separated by commas, at least one. -/
def commaSep {α : Type} (item : Reader α) : Reader (List α) := do
  sepBy1 item "," (← remaining)

/-- Whether a query starts here: the keyword SELECT or WITH comes next. -/
def peekSubquery : Reader Bool := do
  let t := (← peek).1
  pure (t.isKw "SELECT" || t.isKw "WITH")

end Tabula.Sql
