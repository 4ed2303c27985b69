import Tabula.Json.Basic
import Tabula.Number.Read

/-!
# Reading JSON

A reader over the UTF-8 bytes of a text that reads one value at a time and reports the
first fault at its line and byte column.
-/

namespace Tabula.Json

/-- A reading fault: its message and the place it was found (line zero for none). -/
structure Fault where
  msg : String
  line : Nat
  column : Nat
deriving Inhabited, Repr

/-- The text of a fault, with its place when it has one. -/
def Fault.text (f : Fault) : String :=
  if f.line == 0 then f.msg
  else f.msg ++ " at line " ++ toString f.line ++ " column " ++ toString f.column

/-- A text being read: its bytes and the count of bytes read. -/
structure Cursor where
  bytes : ByteArray
  pos : Nat

namespace Cursor

/-- The line and column of a byte index. -/
def place (bytes : ByteArray) (i : Nat) : Nat × Nat :=
  let pre := (bytes.toList.take i)
  let lineStart := (pre.length - (pre.reverse.takeWhile (· != 10)).length)
  (1 + (pre.take lineStart).count 10, i - lineStart)

/-- A fault placed after the bytes read. -/
def fault (c : Cursor) (msg : String) : Fault :=
  let (l, col) := place c.bytes c.pos
  ⟨msg, l, col⟩

/-- A fault placed on the byte looked at. -/
def peekFault (c : Cursor) (msg : String) : Fault :=
  let (l, col) := place c.bytes (min (c.pos + 1) c.bytes.size)
  ⟨msg, l, col⟩

/-- The next byte, if any. -/
def peek? (c : Cursor) : Option UInt8 :=
  c.bytes[c.pos]?

/-- Moves past one byte. -/
def bump (c : Cursor) : Cursor :=
  { c with pos := c.pos + 1 }

/-- Skips blanks (space, tab, line feed, carriage return). -/
def skipBlank (c : Cursor) : Cursor :=
  if h : c.pos < c.bytes.size then
    let b := c.bytes[c.pos]
    if b == 32 || b == 9 || b == 10 || b == 13 then skipBlank c.bump else c
  else c
termination_by c.bytes.size - c.pos
decreasing_by simp only [bump]; omega

/-- Whether every byte has been read. -/
def atEnd (c : Cursor) : Bool :=
  c.pos ≥ c.bytes.size

end Cursor

/-- The messages of reading faults. -/
def eofValue : String := "EOF while parsing a value"
def eofString : String := "EOF while parsing a string"
def eofList : String := "EOF while parsing a list"
def eofObject : String := "EOF while parsing an object"
def expectedValue : String := "expected value"
def expectedIdent : String := "expected ident"
def invalidNumber : String := "invalid number"
def outOfRange : String := "number out of range"
def invalidEscape : String := "invalid escape"
def controlChar : String := "control character (\\u0000-\\u001F) found while parsing a string"
def trailingComma : String := "trailing comma"
def trailingChars : String := "trailing characters"
def listCommaOrEnd : String := "expected `,` or `]`"
def objectCommaOrEnd : String := "expected `,` or `\x7d`"
def expectedColon : String := "expected `:`"
def keyNotString : String := "key must be a string"
def depthExceeded : String := "recursion limit exceeded"
def loneSurrogate : String := "lone leading surrogate in hex escape"
def hexEscapeEnd : String := "unexpected end of hex escape"
def invalidCodePoint : String := "invalid unicode code point"

/-- A result of reading with the cursor after it. -/
abbrev Step (α : Type) := Except Fault (α × Cursor)

/-- Reads the rest of a keyword whose first byte was read. -/
def readWord (c : Cursor) : List UInt8 → Except Fault Cursor
  | [] => .ok c
  | b :: bs =>
    match c.peek? with
    | none => .error (c.fault eofValue)
    | some x => if x == b then readWord c.bump bs else .error (c.bump.fault expectedIdent)

/-- The value of a hex digit byte. -/
def hexValue (b : UInt8) : Option Nat :=
  if 48 ≤ b && b ≤ 57 then some (b.toNat - 48)
  else if 97 ≤ b && b ≤ 102 then some (b.toNat - 87)
  else if 65 ≤ b && b ≤ 70 then some (b.toNat - 55)
  else none

/-- Reads four hex digits of a `\u` escape. -/
def readHex4 (c : Cursor) : Step Nat :=
  if c.pos + 4 > c.bytes.size then .error ({ c with pos := c.bytes.size }.fault eofString)
  else
    let ds := [0, 1, 2, 3].map fun k => hexValue (c.bytes[c.pos + k]?.getD 0)
    match ds with
    | [some a, some b, some d, some e] =>
      .ok (((a * 16 + b) * 16 + d) * 16 + e, { c with pos := c.pos + 4 })
    | _ =>
      let bad := (ds.takeWhile Option.isSome).length
      .error ({ c with pos := c.pos + bad + 1 }.fault invalidEscape)

/-- The UTF-8 bytes of a code point. -/
def utf8 (n : Nat) : List UInt8 :=
  (String.singleton (Char.ofNat n)).toUTF8.toList

/-- Reads one escape after a backslash, giving the bytes it stands for. -/
def readEscape (c : Cursor) : Step (List UInt8) :=
  match c.peek? with
  | none => .error (c.fault eofString)
  | some e =>
    let c := c.bump
    if e == 34 then .ok ([34], c)
    else if e == 92 then .ok ([92], c)
    else if e == 47 then .ok ([47], c)
    else if e == 98 then .ok ([8], c)
    else if e == 102 then .ok ([12], c)
    else if e == 110 then .ok ([10], c)
    else if e == 114 then .ok ([13], c)
    else if e == 116 then .ok ([9], c)
    else if e == 117 then
      match readHex4 c with
      | .error f => .error f
      | .ok (n, c) =>
        if 0xDC00 ≤ n && n ≤ 0xDFFF then .error (c.fault loneSurrogate)
        else if 0xD800 ≤ n && n ≤ 0xDBFF then
          if c.peek? != some 92 then .error (c.bump.fault hexEscapeEnd)
          else if c.bump.peek? != some 117 then .error (c.bump.bump.fault hexEscapeEnd)
          else
            match readHex4 c.bump.bump with
            | .error f => .error f
            | .ok (m, c) =>
              if m < 0xDC00 || m > 0xDFFF then .error (c.fault loneSurrogate)
              else .ok (utf8 (((n - 0xD800) * 1024 + (m - 0xDC00)) + 0x10000), c)
        else .ok (utf8 n, c)
    else .error (c.fault invalidEscape)

/-- Reads the rest of a string whose opening quote was read. -/
def readStringBytes (c : Cursor) (acc : Array UInt8) : Step (Array UInt8) :=
  if h : c.pos < c.bytes.size then
    let b := c.bytes[c.pos]
    if b == 34 then .ok (acc, c.bump)
    else if b == 92 then
      match hq : readEscape c.bump with
      | .error f => .error f
      | .ok (bs, c') =>
        if c'.pos > c.pos then readStringBytes ⟨c.bytes, c'.pos⟩ (acc ++ bs.toArray)
        else .error (c'.fault invalidEscape)
    else if b < 32 then .error (c.bump.fault controlChar)
    else readStringBytes c.bump (acc.push b)
  else .error (c.fault eofString)
termination_by c.bytes.size - c.pos
decreasing_by
  · omega
  · simp only [Cursor.bump]; omega

/-- Reads the rest of a string whose opening quote was read. -/
def readString (c : Cursor) : Step String :=
  match readStringBytes c #[] with
  | .error f => .error f
  | .ok (bs, c) => .ok ((String.fromUTF8? ⟨bs⟩).getD "", c)

/-- A number as the deserializer reads it. -/
inductive Num where
  | unsigned (n : Nat)
  | negative (n : Int)
  | double (x : Float)

/-- The largest unsigned 64-bit integer. -/
def u64Max : Nat := Nat.pow 2 64 - 1

/-- `10 · a + d` would pass `limit`. -/
def overflows (a d limit : Nat) : Bool :=
  a ≥ limit / 10 && (a > limit / 10 || d > limit % 10)

/-- `10^k` as a double, for `k ≤ 308`. -/
def pow10 (k : Nat) : Float :=
  Float.ofScientific 1 false k

/-- The double of `± significand · 10^exp`: the significand rounded to a double, then
multiplied or divided by one power of ten, stepping by `10^308` past the table. -/
def fromParts (positive : Bool) (significand : Nat) (exp : Int) : Option Float :=
  let f := Float.ofNat significand
  let r := go f exp 700
  r.map fun x => if positive then x else -x
where
  go (f : Float) (exp : Int) : Nat → Option Float
    | 0 => some f
    | fuel + 1 =>
      if exp.natAbs ≤ 308 then
        if exp ≥ 0 then
          let g := f * pow10 exp.toNat
          if g.isInf then none else some g
        else some (f / pow10 exp.natAbs)
      else if f == 0 then some f
      else if exp ≥ 0 then none
      else go (f / pow10 308) (exp + 308) fuel

/-- Skips ASCII digits. -/
def skipDigits (c : Cursor) : Cursor :=
  if h : c.pos < c.bytes.size then
    let b := c.bytes[c.pos]
    if 48 ≤ b && b ≤ 57 then skipDigits c.bump else c
  else c
termination_by c.bytes.size - c.pos
decreasing_by simp only [Cursor.bump]; omega

/-- Whether a byte is an ASCII digit. -/
def isDigitByte (b : UInt8) : Bool := 48 ≤ b && b ≤ 57

/-- Reads the digits of an exponent. -/
def expDigits (c : Cursor) (e : Nat) : Cursor × Option Nat :=
  if h : c.pos < c.bytes.size then
    let b := c.bytes[c.pos]
    if isDigitByte b then
      let d := b.toNat - 48
      if overflows e d (Nat.pow 2 31 - 1) then (c.bump, none)
      else expDigits c.bump (10 * e + d)
    else (c, some e)
  else (c, some e)
termination_by c.bytes.size - c.pos
decreasing_by all_goals simp only [Cursor.bump]; omega

/-- Reads an exponent part after `e`, which was looked at but not read. -/
def readExponent (c : Cursor) (positive : Bool) (significand : Nat) (start : Int) : Step Float :=
  let c := c.bump
  let (posExp, c) := match c.peek? with
    | some 43 => (true, c.bump)
    | some 45 => (false, c.bump)
    | _ => (true, c)
  match c.peek? with
  | none => .error (c.fault eofValue)
  | some b =>
    if !isDigitByte b then .error (c.bump.fault invalidNumber)
    else
      match expDigits c.bump (b.toNat - 48) with
      | (c, none) =>
        if significand != 0 && posExp then .error (c.fault outOfRange)
        else .ok ((if positive then 0.0 else -0.0), skipDigits c)
      | (c, some e) =>
        let final := if posExp then start + e else start - e
        match fromParts positive significand final with
        | some x => .ok (x, c)
        | none => .error (c.fault outOfRange)

/-- Reads the end of a double after its significand: a fraction, an exponent, or
nothing more. -/
def finishDouble (c : Cursor) (positive : Bool) (significand : Nat) (exp : Int) : Step Float :=
  match c.peek? with
  | some 101 | some 69 => readExponent c positive significand exp
  | _ =>
    match fromParts positive significand exp with
    | some x => .ok (x, c)
    | none => .error (c.fault outOfRange)

/-- Reads fraction digits, keeping at most the digits that fit in 64 bits. -/
def fracDigits (c : Cursor) (sig : Nat) (exp : Int) (count : Nat) (full : Bool) :
    Cursor × Nat × Int × Nat :=
  if h : c.pos < c.bytes.size then
    let b := c.bytes[c.pos]
    if isDigitByte b then
      let d := b.toNat - 48
      if full || overflows sig d u64Max then fracDigits c.bump sig exp (count + 1) true
      else fracDigits c.bump (10 * sig + d) (exp - 1) (count + 1) false
    else (c, sig, exp, count)
  else (c, sig, exp, count)
termination_by c.bytes.size - c.pos
decreasing_by all_goals simp only [Cursor.bump]; omega

/-- Reads a fraction after `.`, which was looked at but not read. -/
def readFraction (c : Cursor) (positive : Bool) (sig : Nat) (exp : Int) : Step Float :=
  let (c, sig, exp, count) := fracDigits c.bump sig exp 0 false
  if count == 0 then
    match c.peek? with
    | some _ => .error (c.peekFault invalidNumber)
    | none => .error (c.peekFault eofValue)
  else finishDouble c positive sig exp

/-- Reads integer digits, switching to counting when the value passes 64 bits. -/
def intDigits (c : Cursor) (sig : Nat) (extra : Nat) (full : Bool) : Cursor × Nat × Nat × Bool :=
  if h : c.pos < c.bytes.size then
    let b := c.bytes[c.pos]
    if isDigitByte b then
      let d := b.toNat - 48
      if full || overflows sig d u64Max then intDigits c.bump sig (extra + 1) true
      else intDigits c.bump (10 * sig + d) extra false
    else (c, sig, extra, full)
  else (c, sig, extra, full)
termination_by c.bytes.size - c.pos
decreasing_by all_goals simp only [Cursor.bump]; omega

/-- Reads a number after its sign; the first digit is looked at, not read. -/
def readNumber (c : Cursor) (positive : Bool) : Step Num :=
  match c.peek? with
  | none => .error (c.fault eofValue)
  | some b =>
    if b == 48 then
      let c := c.bump
      match c.peek? with
      | some d =>
        if isDigitByte d then .error (c.peekFault invalidNumber)
        else tail c 0 0 false
      | none => tail c 0 0 false
    else if isDigitByte b then
      let (c, sig, extra, full) := intDigits c.bump (b.toNat - 48) 0 false
      tail c sig extra full
    else .error (c.bump.fault invalidNumber)
where
  tail (c : Cursor) (sig extra : Nat) (full : Bool) : Step Num :=
    match c.peek? with
    | some 46 => (readFraction c positive sig extra).map fun (x, c) => (.double x, c)
    | some 101 | some 69 => (readExponent c positive sig extra).map fun (x, c) => (.double x, c)
    | _ =>
      if full then
        match fromParts positive sig extra with
        | some x => .ok (.double x, c)
        | none => .error (c.fault outOfRange)
      else if positive then .ok (.unsigned sig, c)
      else if sig == 0 || sig > Nat.pow 2 63 then .ok (.double (-(Float.ofNat sig)), c)
      else .ok (.negative (-(sig : Int)), c)

/-- A number as a JSON document. -/
def Num.toJson : Num → Json
  | .unsigned n => .int n
  | .negative n => .int n
  | .double x => .float x

/-- Nesting deeper than this is refused. -/
def maxDepth : Nat := 128

/-- Reads the next key of an object, or `none` at its closing brace (left unread). -/
def readKey (c : Cursor) (first : Bool) : Step (Option String) :=
  let c := c.skipBlank
  match c.peek? with
  | some 125 => .ok (none, c)
  | none => .error (c.peekFault eofObject)
  | some b =>
    let next : Except Fault Cursor :=
      if b == 44 && !first then .ok c.bump.skipBlank
      else if first then .ok c
      else .error (c.peekFault objectCommaOrEnd)
    match next with
    | .error f => .error f
    | .ok c =>
      match c.peek? with
      | some 34 => (readString c.bump).map fun (s, c) => (some s, c)
      | some 125 => .error (c.peekFault trailingComma)
      | some _ => .error (c.peekFault keyNotString)
      | none => .error (c.peekFault eofValue)

/-- Reads the colon after a key. -/
def readColon (c : Cursor) : Except Fault Cursor :=
  let c := c.skipBlank
  match c.peek? with
  | some 58 => .ok c.bump
  | some _ => .error (c.peekFault expectedColon)
  | none => .error (c.peekFault eofObject)

/-- Reads the closing bracket of an array. -/
def endList (c : Cursor) : Except Fault Cursor :=
  let c := c.skipBlank
  match c.peek? with
  | some 93 => .ok c.bump
  | some 44 =>
    let c' := c.bump.skipBlank
    if c'.peek? == some 93 then .error (c'.peekFault trailingComma)
    else .error (c'.peekFault trailingChars)
  | some _ => .error (c.peekFault trailingChars)
  | none => .error (c.peekFault eofList)

/-- Reads the closing brace of an object. -/
def endObject (c : Cursor) : Except Fault Cursor :=
  let c := c.skipBlank
  match c.peek? with
  | some 125 => .ok c.bump
  | some 44 => .error (c.peekFault trailingComma)
  | some _ => .error (c.peekFault trailingChars)
  | none => .error (c.peekFault eofObject)

mutual
/-- Reads one value. `fuel` bounds the work; every call reads at least one byte. -/
def readValue (fuel depth : Nat) (c : Cursor) : Step Json :=
  match fuel with
  | 0 => .error (c.fault depthExceeded)
  | fuel + 1 =>
    let c := c.skipBlank
    match c.peek? with
    | none => .error (c.peekFault eofValue)
    | some b =>
      if b == 110 then (readWord c.bump [117, 108, 108]).map fun c => (.null, c)
      else if b == 116 then (readWord c.bump [114, 117, 101]).map fun c => (.bool true, c)
      else if b == 102 then (readWord c.bump [97, 108, 115, 101]).map fun c => (.bool false, c)
      else if b == 45 then (readNumber c.bump false).map fun (n, c) => (n.toJson, c)
      else if isDigitByte b then (readNumber c true).map fun (n, c) => (n.toJson, c)
      else if b == 34 then (readString c.bump).map fun (s, c) => (.str s, c)
      else if b == 91 then
        if depth ≥ maxDepth then .error (c.bump.fault depthExceeded)
        else
          match readItems fuel (depth + 1) c.bump true [] with
          | .error f => .error f
          | .ok (xs, c) => (endList c).map fun c => (.arr xs, c)
      else if b == 123 then
        if depth ≥ maxDepth then .error (c.bump.fault depthExceeded)
        else
          match readMembers fuel (depth + 1) c.bump true [] with
          | .error f => .error f
          | .ok (kvs, c) => (endObject c).map fun c => (.obj kvs, c)
      else .error (c.peekFault expectedValue)

/-- Reads the items of an array up to its closing bracket, which is left unread. -/
def readItems (fuel depth : Nat) (c : Cursor) (first : Bool) (acc : List Json) :
    Step (List Json) :=
  match fuel with
  | 0 => .error (c.fault depthExceeded)
  | fuel + 1 =>
    let c := c.skipBlank
    match c.peek? with
    | some 93 => .ok (acc.reverse, c)
    | none => .error (c.peekFault eofList)
    | some b =>
      let next : Except Fault Cursor :=
        if b == 44 && !first then .ok c.bump.skipBlank
        else if first then .ok c
        else .error (c.peekFault listCommaOrEnd)
      match next with
      | .error f => .error f
      | .ok c =>
        match c.peek? with
        | some 93 => .error (c.peekFault trailingComma)
        | none => .error (c.peekFault eofValue)
        | some _ =>
          match readValue fuel depth c with
          | .error f => .error f
          | .ok (v, c) => readItems fuel depth c false (v :: acc)

/-- Reads the members of an object up to its closing brace, which is left unread. -/
def readMembers (fuel depth : Nat) (c : Cursor) (first : Bool) (acc : List (String × Json)) :
    Step (List (String × Json)) :=
  match fuel with
  | 0 => .error (c.fault depthExceeded)
  | fuel + 1 =>
    match readKey c first with
    | .error f => .error f
    | .ok (none, c) => .ok (acc.reverse, c)
    | .ok (some k, c) =>
      match readColon c with
      | .error f => .error f
      | .ok c =>
        match readValue fuel depth c with
        | .error f => .error f
        | .ok (v, c) => readMembers fuel depth c false ((k, v) :: acc)
end

/-- Checks that only blanks follow a value. -/
def finish (c : Cursor) : Except Fault Unit :=
  let c := c.skipBlank
  if c.atEnd then .ok () else .error (c.peekFault trailingChars)

/-- Reads a whole text as one JSON document. -/
def parse (s : String) : Except Fault Json :=
  let c : Cursor := ⟨s.toUTF8, 0⟩
  match readValue (2 * s.utf8ByteSize + 2) 0 c with
  | .error f => .error f
  | .ok (j, c) => (finish c).map fun _ => j

end Tabula.Json
