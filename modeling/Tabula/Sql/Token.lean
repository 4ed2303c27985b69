import Tabula.Text.Case

/-!
# SQL tokens
-/

namespace Tabula.Sql

/-- Where a token starts; line zero means the end of the text. -/
structure Loc where
  line : Nat
  col : Nat
deriving Inhabited, BEq, Repr

/-- The place of a token as it is written after an error message. -/
def Loc.suffix (l : Loc) : String :=
  if l.line == 0 then "" else " at Line: " ++ toString l.line ++ ", Column: " ++ toString l.col

/-- The kinds of quoted string literal, by their prefix. -/
inductive StrKind where
  | single
  | national
  | escaped
  | unicode
  | hex
  | byteSingle
  | byteDouble
  | rawSingle
  | rawDouble
deriving Inhabited, BEq, Repr

/-- A token. -/
inductive Tok where
  | word (value : String) (quote : Option Char) (upper : String)
  | number (text : String) (long : Bool)
  | str (kind : StrKind) (s : String)
  | dollar (s : String)
  | placeholder (s : String)
  | sym (s : String)
  | other (c : Char)
  | eof
deriving Inhabited, BEq, Repr

/-- The closing quote of a quoted identifier. -/
def closingQuote (c : Char) : Char :=
  if c == '[' then ']' else c

/-- A string literal as it is printed. -/
def StrKind.render (k : StrKind) (s : String) : String :=
  match k with
  | .single => "'" ++ s ++ "'"
  | .national => "N'" ++ s ++ "'"
  | .escaped => "E'" ++ s ++ "'"
  | .unicode => "U&'" ++ s ++ "'"
  | .hex => "X'" ++ s ++ "'"
  | .byteSingle => "B'" ++ s ++ "'"
  | .byteDouble => "B\"" ++ s ++ "\""
  | .rawSingle => "R'" ++ s ++ "'"
  | .rawDouble => "R\"" ++ s ++ "\""

/-- A token as it is printed in messages. -/
def Tok.render : Tok → String
  | .word v q _ => match q with
    | some c => String.ofList [c] ++ v ++ String.ofList [closingQuote c]
    | none => v
  | .number n l => n ++ (if l then "L" else "")
  | .str k s => k.render s
  | .dollar s => s
  | .placeholder s => s
  | .sym s => s
  | .other c => String.ofList [c]
  | .eof => "EOF"

/-- Whether a token is the unquoted keyword `k` (given in upper case). -/
def Tok.isKw (t : Tok) (k : String) : Bool :=
  match t with
  | .word _ none u => u == k
  | _ => false

/-- Whether a token is the symbol `s`. -/
def Tok.isSym (t : Tok) (s : String) : Bool :=
  match t with
  | .sym x => x == s
  | _ => false

/-- Makes a word token, unquoted or quoted. -/
def Tok.mkWord (value : String) (quote : Option Char) : Tok :=
  match quote with
  | none => .word value none (Text.toUpper value)
  | some q => .word value (some q) ""

/-- A token with the place where it starts. -/
abbrev Located := Tok × Loc

end Tabula.Sql
