import Tabula.Config
import Tabula.Number.Read
import Tabula.Number.Format

/-!
# Settings files

A settings file is a JSON object read as a streaming reader reads it, with its faults
reported at a line and a byte column.
-/

namespace Tabula.ConfigFile

/-- The unread text with the line and byte column reached. -/
structure Src where
  rest : List Char
  line : Nat
  col : Nat
deriving Inhabited

/-- Reading a settings file; failures carry their full message. -/
abbrev Load := StateT Src (Except String)

/-- A message with a place. -/
def atPlace (msg : String) (line col : Nat) : String :=
  msg ++ " at line " ++ toString line ++ " column " ++ toString col

/-- Fails at the place reached. -/
def failHere {α : Type} (msg : String) : Load α := do
  let s ← get
  throw (atPlace msg s.line s.col)

/-- Fails at the place of the next character. -/
def failAhead {α : Type} (msg : String) : Load α := do
  let s ← get
  match s.rest with
  | c :: _ =>
    if c == '\n' then throw (atPlace msg (s.line + 1) 0)
    else throw (atPlace msg s.line (s.col + 1))
  | [] => throw (atPlace msg s.line s.col)

/-- The next character, without reading it. -/
def peekChar : Load (Option Char) := do
  pure (← get).rest.head?

/-- Reads one character. -/
def eat : Load Unit :=
  modify fun s =>
    match s.rest with
    | c :: rest =>
      if c == '\n' then { rest, line := s.line + 1, col := 0 }
      else { rest, line := s.line, col := s.col + c.utf8Size }
    | [] => s

/-- The blanks JSON allows between tokens. -/
def isJsonBlank (c : Char) : Bool :=
  c == ' ' || c == '\n' || c == '\t' || c == '\r'

/-- Reads blanks and says what comes after them. -/
def skipBlanks : Nat → Load (Option Char)
  | 0 => peekChar
  | fuel + 1 => do
    match (← peekChar) with
    | some c =>
      if isJsonBlank c then
        eat
        skipBlanks fuel
      else pure (some c)
    | none => pure none

/-- Reads blanks, as many as there are. -/
def blanks : Load (Option Char) := do
  skipBlanks ((← get).rest.length)

/-- The value of a hex digit. -/
def hexValue (c : Char) : Option Nat :=
  if '0' ≤ c && c ≤ '9' then some (c.toNat - 48)
  else if 'a' ≤ c && c ≤ 'f' then some (c.toNat - 87)
  else if 'A' ≤ c && c ≤ 'F' then some (c.toNat - 55)
  else none

/-- Reads the four hex digits of a `\u` escape. -/
def hexEscape : Load Nat := do
  let s ← get
  match s.rest with
  | a :: b :: c :: d :: _ =>
    eat; eat; eat; eat
    match hexValue a, hexValue b, hexValue c, hexValue d with
    | some w, some x, some y, some z => pure (((w * 16 + x) * 16 + y) * 16 + z)
    | _, _, _, _ => failHere "invalid escape"
  | _ =>
    set { s with rest := [], col := s.rest.foldl (fun (n : Nat) (c : Char) => n + c.utf8Size) s.col }
    failHere "EOF while parsing a string"

/-- Reads the character after `\` in a string, when `check` also requiring `\u`
escapes to be whole characters. -/
def escapeChar (check : Bool) : Load (List Char) := do
  match (← peekChar) with
  | none => failHere "EOF while parsing a string"
  | some c =>
    eat
    if c == '"' then pure ['"']
    else if c == '\\' then pure ['\\']
    else if c == '/' then pure ['/']
    else if c == 'b' then pure [Char.ofNat 8]
    else if c == 'f' then pure [Char.ofNat 12]
    else if c == 'n' then pure ['\n']
    else if c == 'r' then pure ['\r']
    else if c == 't' then pure ['\t']
    else if c == 'u' then do
      let n ← hexEscape
      if !check then pure [Char.ofNat n]
      else if 0xDC00 ≤ n && n ≤ 0xDFFF then failHere "lone leading surrogate in hex escape"
      else if n < 0xD800 || n > 0xDBFF then pure [Char.ofNat n]
      else do
        match (← peekChar) with
        | some '\\' => eat
        | some _ =>
          eat
          failHere "unexpected end of hex escape"
        | none => failHere "EOF while parsing a string"
        match (← peekChar) with
        | some 'u' => eat
        | some _ =>
          eat
          failHere "unexpected end of hex escape"
        | none => failHere "EOF while parsing a string"
        let n2 ← hexEscape
        if n2 < 0xDC00 || n2 > 0xDFFF then failHere "lone leading surrogate in hex escape"
        else pure [Char.ofNat (((n - 0xD800) * 1024 + (n2 - 0xDC00)) + 0x10000)]
    else failHere "invalid escape"

/-- Reads the rest of a string after its opening quote; `skipping` for a string whose
value is not kept, where a control character is refused before it is read. -/
def stringBody (skipping : Bool) : Nat → List Char → Load String
  | 0, acc => pure (String.ofList acc.reverse)
  | fuel + 1, acc => do
    match (← peekChar) with
    | none => failHere "EOF while parsing a string"
    | some c =>
      if c == '"' then
        eat
        pure (String.ofList acc.reverse)
      else if c == '\\' then do
        eat
        let cs ← escapeChar (!skipping)
        stringBody skipping fuel (cs.reverse ++ acc)
      else if c.toNat < 0x20 then do
        if !skipping then eat
        failHere "control character (\\u0000-\\u001F) found while parsing a string"
      else do
        eat
        stringBody skipping fuel (c :: acc)

/-- Reads a string after its opening quote. -/
def readString (skipping : Bool) : Load String := do
  stringBody skipping ((← get).rest.length) []

/-- A JSON number as read: a non-negative integer, a negative one, or a double. -/
inductive Num where
  | unsigned (n : Nat)
  | signed (n : Int)
  | double (x : Float)

/-- Reads decimal digits. -/
def digits : Nat → List Char → Load (List Char)
  | 0, acc => pure acc.reverse
  | fuel + 1, acc => do
    match (← peekChar) with
    | some c =>
      if c.isDigit then
        eat
        digits fuel (c :: acc)
      else pure acc.reverse
    | none => pure acc.reverse

/-- Reads the digits after a decimal point, which must be at least one. -/
def someDigits : Load (List Char) := do
  let ds ← digits ((← get).rest.length) []
  if ds.isEmpty then
    match (← peekChar) with
    | some _ => failAhead "invalid number"
    | none => failAhead "EOF while parsing a value"
  else pure ds

/-- Reads the digits of a number's integer part: a lone `0`, or digits that do not start
with `0`. -/
def integerPart : Load (List Char) := do
  let first ← match (← peekChar) with
    | some c =>
      if c.isDigit then do
        eat
        pure c
      else do
        eat
        failHere "invalid number"
    | none => failHere "EOF while parsing a value"
  if first == '0' then do
    match (← peekChar) with
    | some c => if c.isDigit then failAhead "invalid number" else pure ['0']
    | none => pure ['0']
  else do
    let more ← digits ((← get).rest.length) []
    pure (first :: more)

/-- Reads a number whose sign, if any, is already read. -/
def readNumber (positive : Bool) : Load Num := do
  let intDigits ← integerPart
  let frac ← if (← peekChar) == some '.' then do
      eat
      let ds ← someDigits
      pure (some ds)
    else pure none
  let expo ← match (← peekChar) with
    | some c =>
      if c == 'e' || c == 'E' then do
        eat
        let sign ← match (← peekChar) with
          | some '+' => do
            eat
            pure "+"
          | some '-' => do
            eat
            pure "-"
          | _ => pure ""
        let ds ← digits ((← get).rest.length) []
        if ds.isEmpty then
          match (← peekChar) with
          | some _ => failAhead "invalid number"
          | none => failHere "invalid number"
        pure (some (sign ++ String.ofList ds))
      else pure none
    | none => pure none
  let n := intDigits.foldl (fun n c => 10 * n + (c.toNat - 48)) 0
  match frac, expo with
  | none, none =>
    if n < Nat.pow 2 64 then
      if positive then pure (.unsigned n)
      else if n == 0 then pure (.double (-0.0))
      else if n ≤ Nat.pow 2 63 then pure (.signed (-(n : Int)))
      else pure (.double (-(Float.ofNat n)))
    else
      let text := String.ofList intDigits
      let x := (Number.readFloat? text).getD 0
      if x.isInf then failHere "number out of range"
      else pure (.double (if positive then x else -x))
  | _, _ =>
    let text := String.ofList intDigits ++
      (match frac with
        | some ds => "." ++ String.ofList ds
        | none => "") ++
      (match expo with
        | some e => "e" ++ e
        | none => "")
    let x := (Number.readFloat? text).getD 0
    if x.isInf then failHere "number out of range"
    else pure (.double (if positive then x else -x))

/-- Reads a fixed word such as `null` after its first letter. -/
def word (letters : List Char) : Load Unit := do
  match letters with
  | [] => pure ()
  | l :: rest =>
    match (← peekChar) with
    | some c =>
      eat
      if c == l then word rest else failHere "expected ident"
    | none => failHere "EOF while parsing a value"

/-- Reads digits while there are any. -/
def skipDigits : Nat → Load Unit
  | 0 => pure ()
  | fuel + 1 => do
    match (← peekChar) with
    | some c =>
      if c.isDigit then
        eat
        skipDigits fuel
      else pure ()
    | none => pure ()

/-- Takes the next character if there is one. -/
def nextOrNull : Load (Option Char) := do
  let c ← peekChar
  if c.isSome then eat
  pure c

/-- Reads the exponent of a number whose value is not kept, after its mark. -/
def skipExponent : Load Unit := do
  eat
  match (← peekChar) with
  | some '+' | some '-' => eat
  | _ => pure ()
  match (← nextOrNull) with
  | some c => if c.isDigit then skipDigits ((← get).rest.length) else failHere "invalid number"
  | none => failHere "invalid number"

/-- Reads a number whose value is not kept, after its sign. -/
def skipNumber : Load Unit := do
  match (← nextOrNull) with
  | some '0' =>
    match (← peekChar) with
    | some c => if c.isDigit then failAhead "invalid number"
    | none => pure ()
  | some c =>
    if c.isDigit then skipDigits ((← get).rest.length)
    else failHere "invalid number"
  | none => failHere "invalid number"
  match (← peekChar) with
  | some '.' =>
    eat
    let ds ← digits ((← get).rest.length) []
    if ds.isEmpty then failAhead "invalid number"
    match (← peekChar) with
    | some 'e' | some 'E' => skipExponent
    | _ => pure ()
  | some 'e' | some 'E' => skipExponent
  | _ => pure ()

/-- Closes the arrays and objects that end here; gives the innermost one still open
with the ones around it, or `none` when the outermost has closed. -/
def closeFrames : Nat → Bool → Char → List Char → Load (Option (Char × List Char))
  | 0, _, f, stack => pure (some (f, stack))
  | fuel + 1, acceptComma, frame, stack => do
    match (← blanks) with
    | some c =>
      if c == ',' && acceptComma then
        eat
        pure (some (frame, stack))
      else if (c == ']' && frame == '[') || (c == '}' && frame == '{') then do
        eat
        match stack with
        | f :: rest => closeFrames fuel true f rest
        | [] => pure none
      else if acceptComma then
        failAhead (if frame == '[' then "expected `,` or `]`" else "expected `,` or `\x7d`")
      else pure (some (frame, stack))
    | none => failAhead (if frame == '[' then "EOF while parsing a list" else "EOF while parsing an object")

/-- Reads a JSON value and drops it, with the arrays and objects around it still open
in `stack`. -/
def skipLoop : Nat → List Char → Load Unit
  | 0, _ => pure ()
  | fuel + 1, stack => do
    let opened ← match (← blanks) with
      | none => failAhead "EOF while parsing a value"
      | some c =>
        if c == 'n' then do
          eat
          word ['u', 'l', 'l']
          pure none
        else if c == 't' then do
          eat
          word ['r', 'u', 'e']
          pure none
        else if c == 'f' then do
          eat
          word ['a', 'l', 's', 'e']
          pure none
        else if c == '-' then do
          eat
          skipNumber
          pure none
        else if c.isDigit then do
          skipNumber
          pure none
        else if c == '"' then do
          eat
          let _ ← readString true
          pure none
        else if c == '[' || c == '{' then do
          eat
          pure (some c)
        else failAhead "expected value"
    let next ← match opened with
      | some f => closeFrames ((← get).rest.length + 1) false f stack
      | none =>
        match stack with
        | f :: rest => closeFrames ((← get).rest.length + 1) true f rest
        | [] => pure none
    match next with
    | none => pure ()
    | some (frame, stack) => do
      if frame == '{' then
        match (← blanks) with
        | some '"' => eat
        | some _ => failAhead "key must be a string"
        | none => failAhead "EOF while parsing an object"
        let _ ← readString true
        match (← blanks) with
        | some ':' => eat
        | some _ => failAhead "expected `:`"
        | none => failAhead "EOF while parsing an object"
      skipLoop fuel (frame :: stack)

/-- Reads a JSON value and drops it. -/
def skipValue : Load Unit := do
  skipLoop ((← get).rest.length + 1) []

/-- A text in double quotes, escaped the way messages show it. -/
def quoteText (s : String) : String :=
  "\"" ++ String.join (s.toList.map fun c =>
    if c == '"' then "\\\""
    else if c == '\'' then "'"
    else
      let q := quoteChar c
      String.ofList ((q.toList.drop 1).dropLast)) ++ "\""

/-- What a value of the wrong type is called in a message. -/
def Num.unexpected : Num → String
  | .unsigned n => "integer `" ++ toString n ++ "`"
  | .signed n => "integer `" ++ toString n ++ "`"
  | .double x => "floating point `" ++ Number.pointed x ++ "`"

/-- Reads a value of the wrong type and fails naming it and what was expected. -/
def invalidType {α : Type} (what : String) : Load α := do
  let found ← match (← peekChar) with
    | some 'n' => do
      eat
      word ['u', 'l', 'l']
      pure "null"
    | some 't' => do
      eat
      word ['r', 'u', 'e']
      pure "boolean `true`"
    | some 'f' => do
      eat
      word ['a', 'l', 's', 'e']
      pure "boolean `false`"
    | some '-' => do
      eat
      let n ← readNumber false
      pure n.unexpected
    | some '"' => do
      eat
      let s ← readString false
      pure ("string " ++ quoteText s)
    | some '[' => pure "sequence"
    | some '{' => pure "map"
    | some c =>
      if c.isDigit then do
        let n ← readNumber true
        pure n.unexpected
      else failAhead "expected value"
    | none => failAhead "expected value"
  failHere ("invalid type: " ++ found ++ ", expected " ++ what)

/-- Reads a string value. -/
def stringValue (what : String) : Load String := do
  match (← blanks) with
  | some '"' =>
    eat
    readString false
  | some _ => invalidType what
  | none => failAhead "EOF while parsing a value"

/-- Reads the `data_dir` member. -/
def dataDirValue : Load String := stringValue "path string"

/-- Reads the `batch_size` member. -/
def batchSizeValue : Load Nat := do
  let n ← match (← blanks) with
    | some '-' => do
      eat
      readNumber false
    | some c =>
      if c.isDigit then readNumber true else invalidType "usize"
    | none => failAhead "EOF while parsing a value"
  match n with
  | .unsigned k => pure k
  | .signed k => failHere ("invalid value: integer `" ++ toString k ++ "`, expected usize")
  | .double _ => failHere ("invalid type: " ++ n.unexpected ++ ", expected usize")

/-- Reads the `delimiter` member. -/
def delimiterValue : Load Char := do
  let s ← stringValue "a character"
  match s.toList with
  | [c] => pure c
  | _ => failHere ("invalid value: string " ++ quoteText s ++ ", expected a character")

/-- The members read so far. -/
structure Members where
  dataDir : Option String := none
  batchSize : Option Nat := none
  delimiter : Option Char := none

/-- A failure raised by the members themselves, which is placed only after the reader
has looked for the end of the object. -/
inductive Outcome where
  | done (m : Members)
  | refused (msg : String)

/-- Reads the value of the member under `key` into the members read so far; the value of
an unknown member is read and dropped. -/
def memberValue (key : String) (m : Members) : Load Members :=
  if key == "data_dir" then do
    let v ← dataDirValue
    pure { m with dataDir := some v }
  else if key == "batch_size" then do
    let v ← batchSizeValue
    pure { m with batchSize := some v }
  else if key == "delimiter" then do
    let v ← delimiterValue
    pure { m with delimiter := some v }
  else do
    skipValue
    pure m

/-- Reads up to the next key of an object: nothing before the first, a comma before the
others. Gives the character the key starts with, or `none` where the object ends. -/
def nextKey (first : Bool) : Load (Option Char) := do
  match (← blanks) with
  | some '}' => pure none
  | some ',' =>
    if first then pure (some ',')
    else do
      eat
      match (← blanks) with
      | some c => pure (some c)
      | none => failAhead "EOF while parsing a value"
  | some c => if first then pure (some c) else failAhead "expected `,` or `\x7d`"
  | none => failAhead "EOF while parsing an object"

/-- Reads the members of an object after `{`. -/
def members : Nat → Bool → Members → Load Outcome
  | 0, _, m => pure (.done m)
  | fuel + 1, first, m => do
    match (← nextKey first) with
    | none => pure (.done m)
    | some c =>
      if c == '"' then do
        eat
        let key ← readString false
        let known := key == "data_dir" || key == "batch_size" || key == "delimiter"
        let taken := (key == "data_dir" && m.dataDir.isSome) ||
          (key == "batch_size" && m.batchSize.isSome) || (key == "delimiter" && m.delimiter.isSome)
        if known && taken then pure (.refused ("duplicate field `" ++ key ++ "`"))
        else do
          match (← blanks) with
          | some ':' => eat
          | some _ => failAhead "expected `:`"
          | none => failAhead "EOF while parsing an object"
          let m ← memberValue key m
          members fuel false m
      else if c == '}' then failAhead "trailing comma"
      else failAhead "key must be a string"

/-- Reads the items of an array after `[` as the members in order. -/
def items : Load Members := do
  let next (first : Bool) : Load Bool := do
    match (← blanks) with
    | some ']' => pure false
    | some ',' =>
      if first then pure true
      else do
        eat
        match (← blanks) with
        | some ']' => failAhead "trailing comma"
        | some _ => pure true
        | none => failAhead "EOF while parsing a value"
    | some _ => if first then pure true else failAhead "expected `,` or `]`"
    | none => failAhead "EOF while parsing a list"
  if !(← next true) then return {}
  let d ← dataDirValue
  if !(← next false) then return { dataDir := some d }
  let b ← batchSizeValue
  if !(← next false) then return { dataDir := some d, batchSize := some b }
  let c ← delimiterValue
  pure { dataDir := some d, batchSize := some b, delimiter := some c }

/-- Reads the end of an object. -/
def endObject : Load Unit := do
  match (← blanks) with
  | some '}' => eat
  | some ',' => failAhead "trailing comma"
  | some _ => failAhead "trailing characters"
  | none => failAhead "EOF while parsing an object"

/-- Reads the end of an array. -/
def endArray : Load Unit := do
  match (← blanks) with
  | some ']' => eat
  | some ',' =>
    eat
    match (← blanks) with
    | some ']' => failAhead "trailing comma"
    | _ => failAhead "trailing characters"
  | some _ => failAhead "trailing characters"
  | none => failAhead "EOF while parsing a list"

/-- Reads a whole settings document. -/
def document : Load Members := do
  let m ← match (← blanks) with
    | some '{' => do
      eat
      match (← members ((← get).rest.length + 1) true {}) with
      | .done m => do
        endObject
        pure m
      | .refused msg => do
        let _ ← blanks
        if (← peekChar) == some '}' then eat
        failHere msg
    | some '[' => do
      eat
      let m ← items
      endArray
      pure m
    | some _ => invalidType "struct EngineConfig"
    | none => failAhead "EOF while parsing a value"
  match (← blanks) with
  | some _ => failAhead "trailing characters"
  | none => pure m

/-- The settings a settings file gives, checked. -/
def load (text : String) : Except Error Config :=
  match document.run ⟨text.toList, 1, 0⟩ with
  | .error msg => .error (.serialization msg)
  | .ok (m, _) =>
    let d : Config := {}
    let c : Config := { dataDir := m.dataDir.getD d.dataDir, batchSize := m.batchSize.getD d.batchSize,
                        delimiter := m.delimiter.getD d.delimiter }
    match c.validate with
    | .ok () => .ok c
    | .error e => .error e

end Tabula.ConfigFile
