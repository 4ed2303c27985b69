import Tabula.Number.Format

/-!
# JSON documents

JSON with integers and doubles apart and members in order, written compact or pretty.
-/

namespace Tabula

/-- A JSON document. -/
inductive Json where
  | null
  | bool (b : Bool)
  | int (n : Int)
  | float (x : Float)
  | str (s : String)
  | arr (xs : List Json)
  | obj (kvs : List (String × Json))
deriving Inhabited

namespace Json

/-- The lower-case hex digit of a number below sixteen. -/
def hexDigit (n : Nat) : Char :=
  if n < 10 then Char.ofNat (48 + n) else Char.ofNat (87 + n)

/-- The escaped form of one character inside a JSON string. -/
def escapeChar (c : Char) : List Char :=
  if c == '"' then ['\\', '"']
  else if c == '\\' then ['\\', '\\']
  else if c == '\n' then ['\\', 'n']
  else if c == '\r' then ['\\', 'r']
  else if c == '\t' then ['\\', 't']
  else if c.toNat == 8 then ['\\', 'b']
  else if c.toNat == 12 then ['\\', 'f']
  else if c.toNat < 32 then ['\\', 'u', '0', '0', hexDigit (c.toNat / 16), hexDigit (c.toNat % 16)]
  else [c]

/-- A string as a JSON string literal. -/
def quote (s : String) : String :=
  String.ofList ('"' :: s.toList.flatMap escapeChar ++ ['"'])

/-- The text of a number member: integers in decimal, doubles in their JSON
spelling, and `null` for a double that is not finite. -/
def numberText : Json → String
  | .int n => toString n
  | .float x => (Number.json x).getD "null"
  | _ => "null"

/-- A document without items or members, on one line. -/
def compactLeaf : Json → String
  | .null => "null"
  | .bool b => if b then "true" else "false"
  | .int n => numberText (.int n)
  | .float x => numberText (.float x)
  | .str s => quote s
  | _ => ""

mutual
/-- The document on one line. -/
def compact : Json → String
  | .arr xs => "[" ++ compactItems xs ++ "]"
  | .obj kvs => "\x7b" ++ compactMembers kvs ++ "\x7d"
  | j => compactLeaf j

/-- The items of an array, comma-separated. -/
def compactItems : List Json → String
  | [] => ""
  | [x] => compact x
  | x :: xs => compact x ++ "," ++ compactItems xs

/-- The members of an object, comma-separated. -/
def compactMembers : List (String × Json) → String
  | [] => ""
  | [(k, v)] => quote k ++ ":" ++ compact v
  | (k, v) :: kvs => quote k ++ ":" ++ compact v ++ "," ++ compactMembers kvs
end

/-- Two spaces per level. -/
def indent (level : Nat) : String :=
  String.ofList (List.replicate (2 * level) ' ')

mutual
/-- The document with one item or member per line, at an indentation level. -/
def prettyAt (level : Nat) : Json → String
  | .arr [] => "[]"
  | .arr xs => "[\n" ++ prettyItems (level + 1) xs ++ "\n" ++ indent level ++ "]"
  | .obj [] => "\x7b\x7d"
  | .obj kvs => "\x7b\n" ++ prettyMembers (level + 1) kvs ++ "\n" ++ indent level ++ "\x7d"
  | j => compactLeaf j

/-- The items of an array, one per line. -/
def prettyItems (level : Nat) : List Json → String
  | [] => ""
  | [x] => indent level ++ prettyAt level x
  | x :: xs => indent level ++ prettyAt level x ++ ",\n" ++ prettyItems level xs

/-- The members of an object, one per line. -/
def prettyMembers (level : Nat) : List (String × Json) → String
  | [] => ""
  | [(k, v)] => indent level ++ quote k ++ ": " ++ prettyAt level v
  | (k, v) :: kvs => indent level ++ quote k ++ ": " ++ prettyAt level v ++ ",\n" ++ prettyMembers level kvs

end

/-- The document with one item or member per line. -/
def pretty (j : Json) : String :=
  prettyAt 0 j

/-- The member of an object under a key. -/
def get? (j : Json) (key : String) : Option Json :=
  match j with
  | .obj kvs => (kvs.find? (·.1 == key)).map (·.2)
  | _ => none

end Json

end Tabula
