import Tabula.Sql.Token
import Tabula.Text.Blank
import Tabula.Text.Letter

/-!
# Reading SQL text into tokens
-/

namespace Tabula.Sql

/-- A lexical error: its message and where it happened. -/
structure LexFault where
  msg : String
  loc : Loc
deriving Inhabited

/-- The message of a lexical error with its place. -/
def LexFault.text (f : LexFault) : String := f.msg ++ f.loc.suffix

/-- The place after one more character. -/
def Loc.step (l : Loc) (c : Char) : Loc :=
  if c == '\n' then ⟨l.line + 1, 1⟩ else ⟨l.line, l.col + 1⟩

/-- Text still to be read, with the place of its first character. -/
structure Input where
  rest : List Char
  loc : Loc
deriving Inhabited

namespace Input

/-- The next character. -/
def peek (i : Input) : Option Char := i.rest.head?

/-- The character after the next one. -/
def peek2 (i : Input) : Option Char :=
  match i.rest with
  | _ :: c :: _ => some c
  | _ => none

/-- Skips one character. -/
def drop (i : Input) : Input :=
  match i.rest with
  | [] => i
  | c :: cs => ⟨cs, i.loc.step c⟩

/-- Reads the longest run of characters meeting `p`. -/
def takeWhile (p : Char → Bool) (i : Input) : String × Input :=
  let run := i.rest.takeWhile p
  (String.ofList run, ⟨i.rest.drop run.length, run.foldl Loc.step i.loc⟩)

end Input

/-- Whether a character may start a word. -/
def isWordStart (c : Char) : Bool :=
  Text.isAlphabetic c || c == '_' || c == '#' || c == '@'

/-- Whether a character may continue a word. -/
def isWordPart (c : Char) : Bool :=
  Text.isAlphabetic c || c.isDigit || c == '@' || c == '$' || c == '#' || c == '_'

/-- Whether a character is an ASCII hexadecimal digit. -/
def isHexDigit (c : Char) : Bool :=
  c.isDigit || ('a' ≤ c && c ≤ 'f') || ('A' ≤ c && c ≤ 'F')

/-- The character a backslash escape stands for in a string that allows them. -/
def backslashChar (c : Char) : Char :=
  if c == '0' then Char.ofNat 0
  else if c == 'a' then Char.ofNat 7
  else if c == 'b' then Char.ofNat 8
  else if c == 'f' then Char.ofNat 12
  else if c == 'n' then '\n'
  else if c == 'r' then '\r'
  else if c == 't' then '\t'
  else if c == 'Z' then Char.ofNat 26
  else c

/-- Reads a quoted body up to the closing quote `q`, a doubled quote standing for one;
`none` when the text ends first. -/
def readQuoted (q : Char) (backslash : Bool) : List Char → Loc → List Char → Option (String × Input)
  | [], _, _ => none
  | c :: cs, loc, acc =>
    if c == q then
      match cs with
      | c2 :: cs2 => if c2 == q then readQuoted q backslash cs2 ((loc.step c).step c2) (q :: acc)
        else some (String.ofList acc.reverse, ⟨cs, loc.step c⟩)
      | [] => some (String.ofList acc.reverse, ⟨cs, loc.step c⟩)
    else if c == '\\' && backslash then
      match cs with
      | n :: cs2 => readQuoted q backslash cs2 ((loc.step c).step n) (backslashChar n :: acc)
      | [] => none
    else readQuoted q backslash cs (loc.step c) (c :: acc)

/-- The value of an ASCII digit in the given radix, if it is one. -/
def digitIn (radix : Nat) (c : Char) : Option Nat :=
  let v := if c.isDigit then c.toNat - 48
    else if 'a' ≤ c && c ≤ 'z' then c.toNat - 87
    else if 'A' ≤ c && c ≤ 'Z' then c.toNat - 55
    else 99
  if v < radix then some v else none

/-- The value of a run of digits in a radix. -/
def valueIn (radix : Nat) (ds : List Char) : Option Nat :=
  ds.foldl (fun acc d => do let a ← acc; let v ← digitIn radix d; pure (a * radix + v)) (some 0)

/-- A byte value written in an escape, as a character when it is ASCII. -/
def byteChar (radix : Nat) (ds : List Char) : Option Char :=
  match valueIn radix ds with
  | some n => if n % 256 ≤ 127 then some (Char.ofNat (n % 256)) else none
  | none => none

/-- Reads the body of an `E'...'` literal after its opening quote, resolving
backslash escapes; `none` when it is unterminated or an escape is invalid. -/
def readEscaped : Nat → List Char → Loc → List Char → Option (String × Input)
  | 0, _, _, _ => none
  | _, [], _, _ => none
  | fuel + 1, c :: cs, loc, acc =>
    if c == '\'' then
      match cs with
      | '\'' :: cs2 => readEscaped fuel cs2 ((loc.step c).step '\'') ('\'' :: acc)
      | _ => some (String.ofList acc.reverse, ⟨cs, loc.step c⟩)
    else if c != '\\' then readEscaped fuel cs (loc.step c) (c :: acc)
    else
      match cs with
      | [] => none
      | e :: rest =>
        let l2 := (loc.step c).step e
        let simple (ch : Char) := if ch.toNat == 0 then none else readEscaped fuel rest l2 (ch :: acc)
        if e == 'b' then simple (Char.ofNat 8)
        else if e == 'f' then simple (Char.ofNat 12)
        else if e == 'n' then simple '\n'
        else if e == 'r' then simple '\r'
        else if e == 't' then simple '\t'
        else if e == 'u' || e == 'U' then
          let n := if e == 'u' then 4 else 8
          let ds := rest.take n
          if ds.length < n then none
          else match valueIn 16 ds with
            | some v =>
              if v < 0xD800 || (0xDFFF < v && v < 0x110000) then
                if v == 0 then none
                else readEscaped fuel (rest.drop n) (ds.foldl Loc.step l2) (Char.ofNat v :: acc)
              else none
            | none => none
        else if e == 'x' then
          let ds := (rest.take 2).takeWhile isHexDigit
          if ds.isEmpty then simple 'x'
          else match byteChar 16 ds with
            | some ch => if ch.toNat == 0 then none
              else readEscaped fuel (rest.drop ds.length) (ds.foldl Loc.step l2) (ch :: acc)
            | none => none
        else if '0' ≤ e && e ≤ '7' then
          let more := (rest.take 2).takeWhile fun d => '0' ≤ d && d ≤ '7'
          match byteChar 8 (e :: more) with
          | some ch => if ch.toNat == 0 then none
            else readEscaped fuel (rest.drop more.length) (more.foldl Loc.step l2) (ch :: acc)
          | none => none
        else simple e

/-- Reads a quoted identifier body after its opening quote; a doubled closing quote
stands for one. The flag tells whether the closing quote was found. -/
def readQuotedIdent (close : Char) : List Char → Loc → List Char → String × Input × Bool
  | [], loc, acc => (String.ofList acc.reverse, ⟨[], loc⟩, false)
  | c :: cs, loc, acc =>
    if c == close then
      match cs with
      | c2 :: cs2 => if c2 == close then readQuotedIdent close cs2 ((loc.step c).step c2) (close :: acc)
        else (String.ofList acc.reverse, ⟨cs, loc.step c⟩, true)
      | [] => (String.ofList acc.reverse, ⟨cs, loc.step c⟩, true)
    else readQuotedIdent close cs (loc.step c) (c :: acc)

/-- Skips a nested block comment after its opening; `none` at the end of the text. -/
def skipBlockComment : Nat → Char → List Char → Loc → Option Input
  | _, _, [], _ => none
  | depth, last, c :: cs, loc =>
    if last == '/' && c == '*' then skipBlockComment (depth + 1) ' ' cs (loc.step c)
    else if last == '*' && c == '/' then
      if depth ≤ 1 then some ⟨cs, loc.step c⟩ else skipBlockComment (depth - 1) ' ' cs (loc.step c)
    else skipBlockComment depth c cs (loc.step c)

/-- The end of the text as a place. -/
def endLoc (cs : List Char) (loc : Loc) : Loc := cs.foldl Loc.step loc

/-- Reads a number starting at a digit or a point. -/
def readNumber (i : Input) : Tok × Input :=
  let (whole, i) := i.takeWhile Char.isDigit
  if whole == "0" && i.peek == some 'x' then
    let (h, i) := i.drop.takeWhile isHexDigit
    (.str .hex h, i)
  else
    let (s, i) := if i.peek == some '.' then (whole ++ ".", i.drop) else (whole, i)
    let (frac, i) := i.takeWhile Char.isDigit
    let s := s ++ frac
    if s == "." then (.sym ".", i)
    else
      let (s, i) :=
        match i.rest with
        | e :: rest =>
          if e == 'e' || e == 'E' then
            let (sign, rest2) := match rest with
              | c :: r => if c == '+' || c == '-' then ([c], r) else ([], rest)
              | [] => ([], rest)
            match rest2 with
            | d :: _ =>
              if d.isDigit then
                let i2 : Input := ⟨rest2, (sign.foldl Loc.step (i.loc.step e))⟩
                let (ds, i3) := i2.takeWhile Char.isDigit
                (s ++ String.ofList (e :: sign) ++ ds, i3)
              else (s, i)
            | [] => (s, i)
          else (s, i)
        | [] => (s, i)
      if i.peek == some 'L' then (.number s true, i.drop) else (.number s false, i)

/-- Reads a word whose first characters were already taken. -/
def readWord (first : String) (i : Input) : Tok × Input :=
  let (rest, i) := i.takeWhile isWordPart
  (Tok.mkWord (first ++ rest) none, i)

/-- One operator token from its possible spellings, longest first. -/
def operators : List (String × String) :=
  [("<=>", "<=>"), ("->>", "->>"), ("#>>", "#>>"), ("||/", "||/"), ("!~~*", "!~~*"),
   ("!~~", "!~~"), ("!~*", "!~*"), ("~~*", "~~*"),
   ("!=", "<>"), ("<>", "<>"), ("<=", "<="), (">=", ">="), ("<<", "<<"), (">>", ">>"),
   ("<@", "<@"), ("==", "=="), ("=>", "=>"), ("!!", "!!"), ("!~", "!~"), ("::", "::"),
   (":=", ":="), ("&&", "&&"), ("^@", "^@"), ("~*", "~*"), ("~~", "~~"), ("->", "->"),
   ("#-", "#-"), ("#>", "#>"), ("@>", "@>"), ("@?", "@?"), ("||", "||"), ("|/", "|/"),
   ("//", "//"),
   ("=", "="), ("<", "<"), (">", ">"), ("+", "+"), ("-", "-"), ("*", "*"), ("/", "/"),
   ("%", "%"), ("|", "|"), ("&", "&"), ("^", "^"), ("~", "~"), ("!", "!"), (":", ":"),
   (";", ";"), (",", ","), ("(", "("), (")", ")"), ("[", "["), ("]", "]"), ("\x7b", "\x7b"),
   ("\x7d", "\x7d"), ("\\", "\\")]

/-- The operator spelled at the start of the text, with its length. -/
def matchOperator (cs : List Char) : Option (String × Nat) :=
  operators.findSome? fun (spelling, printed) =>
    let sp := spelling.toList
    if cs.take sp.length == sp then some (printed, sp.length) else none

/-- Skips `n` characters. -/
def Input.dropN (i : Input) (n : Nat) : Input :=
  ⟨i.rest.drop n, (i.rest.take n).foldl Loc.step i.loc⟩

/-- Reads what follows a dollar sign: `$$...$$`, `$tag$...$tag$` or a placeholder. -/
def readDollar (i : Input) : Except LexFault (Tok × Input) :=
  let i := i.drop
  if i.peek == some '$' then
    let body := i.drop
    let rec scan : List Char → List Char → Option (List Char × List Char)
      | '$' :: '$' :: rest, acc => some (acc.reverse, rest)
      | c :: rest, acc => scan rest (c :: acc)
      | [], _ => none
    match scan body.rest [] with
    | some (s, rest) =>
      let used := body.rest.length - rest.length
      .ok (.dollar ("$$" ++ String.ofList s ++ "$$"), body.dropN used)
    | none => .error ⟨"Unterminated dollar-quoted string", endLoc body.rest body.loc⟩
  else
    let (name, i2) := i.takeWhile fun c => Text.isAlphanumeric c || c == '_'
    if i2.peek == some '$' then
      let close := ("$" ++ name ++ "$").toList
      let body := i2.drop
      let rec find : List Char → List Char → Option (List Char × List Char)
        | [], _ => none
        | cs@(c :: rest), acc => if cs.take close.length == close then some (acc.reverse, cs.drop close.length)
          else find rest (c :: acc)
      match find body.rest [] with
      | some (s, rest) =>
        let used := body.rest.length - rest.length
        .ok (.dollar ("$" ++ name ++ "$" ++ String.ofList s ++ "$" ++ name ++ "$"), body.dropN used)
      | none => .error ⟨"Unterminated dollar-quoted, expected $", endLoc body.rest body.loc⟩
    else .ok (.placeholder ("$" ++ name), i2)

/-- Reads one token, or `none` for a blank or a comment; the flag is false at the end. -/
def lexOne (i : Input) : Except LexFault (Option Tok × Input) :=
  match i.rest with
  | [] => .ok (none, i)
  | c :: cs =>
    let quoteNext := cs.head? == some '\''
    let dquoteNext := cs.head? == some '"'
    if c == ' ' || c == '\t' || c == '\n' then .ok (none, i.drop)
    else if c == '\r' then .ok (none, if cs.head? == some '\n' then i.drop.drop else i.drop)
    else if (c == 'B' || c == 'b') && (quoteNext || dquoteNext) then
      let q := if quoteNext then '\'' else '"'
      match readQuoted q false (cs.drop 1) ((i.loc.step c).step q) [] with
      | some (s, i2) => .ok (some (.str (if quoteNext then .byteSingle else .byteDouble) s), i2)
      | none => .error ⟨"Unterminated string literal", i.loc.step c⟩
    else if (c == 'R' || c == 'r') && (quoteNext || dquoteNext) then
      let q := if quoteNext then '\'' else '"'
      match readQuoted q false (cs.drop 1) ((i.loc.step c).step q) [] with
      | some (s, i2) => .ok (some (.str (if quoteNext then .rawSingle else .rawDouble) s), i2)
      | none => .error ⟨"Unterminated string literal", i.loc.step c⟩
    else if (c == 'N' || c == 'n') && quoteNext then
      match readQuoted '\'' true (cs.drop 1) ((i.loc.step c).step '\'') [] with
      | some (s, i2) => .ok (some (.str .national s), i2)
      | none => .error ⟨"Unterminated string literal", i.loc.step c⟩
    else if (c == 'E' || c == 'e') && quoteNext then
      match readEscaped cs.length (cs.drop 1) ((i.loc.step c).step '\'') [] with
      | some (s, i2) => .ok (some (.str .escaped s), i2)
      | none => .error ⟨"Unterminated encoded string literal", i.loc⟩
    else if (c == 'U' || c == 'u') && cs.head? == some '&' && (cs.drop 1).head? == some '\'' then
      match readQuoted '\'' false (cs.drop 2) (((i.loc.step c).step '&').step '\'') [] with
      | some (s, i2) => .ok (some (.str .unicode s), i2)
      | none => .error ⟨"Unterminated unicode encoded string literal", i.loc⟩
    else if (c == 'X' || c == 'x') && quoteNext then
      match readQuoted '\'' true (cs.drop 1) ((i.loc.step c).step '\'') [] with
      | some (s, i2) => .ok (some (.str .hex s), i2)
      | none => .error ⟨"Unterminated string literal", i.loc.step c⟩
    else if c == '\'' then
      match readQuoted '\'' false cs (i.loc.step c) [] with
      | some (s, i2) => .ok (some (.str .single s), i2)
      | none => .error ⟨"Unterminated string literal", i.loc⟩
    else if c == '"' || c.toNat == 96 then
      match readQuotedIdent c cs (i.loc.step c) [] with
      | (s, i2, true) => .ok (some (Tok.mkWord s (some c)), i2)
      | (_, _, false) =>
        .error ⟨"Expected close delimiter " ++ "'" ++ String.ofList [c] ++ "'" ++ " before EOF.", i.loc⟩
    else if c.isDigit || c == '.' then
      let (t, i2) := readNumber i
      .ok (some t, i2)
    else if c == '-' && cs.head? == some '-' then
      let (_, i2) := i.drop.drop.takeWhile (· != '\n')
      .ok (none, i2.drop)
    else if c == '/' && cs.head? == some '*' then
      match skipBlockComment 1 ' ' (cs.drop 1) ((i.loc.step c).step '*') with
      | some i2 => .ok (none, i2)
      | none => .error ⟨"Unexpected EOF while in a multi-line comment", endLoc i.rest i.loc⟩
    else if c == '%' && (match cs.head? with | some d => Text.isBlank d | none => false) then
      .ok (some (.sym "%"), i.drop)
    else if c == '#' then
      match cs with
      | '-' :: _ => .ok (some (.sym "#-"), i.dropN 2)
      | '>' :: '>' :: _ => .ok (some (.sym "#>>"), i.dropN 3)
      | '>' :: _ => .ok (some (.sym "#>"), i.dropN 2)
      | ' ' :: _ => .ok (some (.sym "#"), i.drop)
      | d :: _ =>
        let (t, i2) := readWord (String.ofList ['#', d]) (i.dropN 2)
        .ok (some t, i2)
      | [] => .ok (some (.sym "#"), i.drop)
    else if c == '@' then
      match cs with
      | '>' :: _ => .ok (some (.sym "@>"), i.dropN 2)
      | '?' :: _ => .ok (some (.sym "@?"), i.dropN 2)
      | '@' :: ' ' :: _ => .ok (some (.sym "@@"), i.dropN 2)
      | '@' :: d :: _ =>
        let (t, i2) := readWord (String.ofList ['@', '@', d]) (i.dropN 3)
        .ok (some t, i2)
      | '@' :: [] => .ok (some (.sym "@@"), i.dropN 2)
      | ' ' :: _ => .ok (some (.sym "@"), i.drop)
      | d :: _ =>
        let (t, i2) := readWord (String.ofList ['@', d]) (i.dropN 2)
        .ok (some t, i2)
      | [] => .ok (some (.sym "@"), i.drop)
    else if c == '?' then
      let (ds, i2) := i.drop.takeWhile Text.isNumeric
      .ok (some (.placeholder ("?" ++ ds)), i2)
    else if isWordStart c then
      let (t, i2) := readWord (String.ofList [c]) i.drop
      .ok (some t, i2)
    else if c == '$' then
      (readDollar i).map fun (t, i2) => (some t, i2)
    else
      match matchOperator i.rest with
      | some (op, n) => .ok (some (.sym op), i.dropN n)
      | none =>
        if Text.isBlank c then .ok (none, i.drop)
        else .ok (some (.other c), i.drop)

/-- Reads tokens until the text ends, with fuel for one step per character. -/
def lexLoop : Nat → Input → Array Located → Except LexFault (Array Located)
  | 0, _, acc => .ok acc
  | fuel + 1, i, acc =>
    if i.rest.isEmpty then .ok acc
    else match lexOne i with
      | .error e => .error e
      | .ok (t, i2) =>
        let acc := match t with
          | some t => acc.push (t, i.loc)
          | none => acc
        lexLoop fuel i2 acc

/-- Reads a whole text into tokens. -/
def tokenize (s : String) : Except LexFault (Array Located) :=
  let cs := s.toList
  lexLoop (cs.length + 1) ⟨cs, ⟨1, 1⟩⟩ #[]

end Tabula.Sql
