import Tabula.Row

/-!
# CSV files

Reading CSV text with a configurable delimiter, reading the bytes of a file with a
UTF-8 check per record, and writing rows as CSV text.
-/

namespace Tabula.Csv

/-- Where the reader is within a record. -/
inductive Phase where
  | recordStart
  | fieldStart
  | unquoted
  | quoted
  | quoteInQuoted
  | afterCr
deriving DecidableEq, Repr, Inhabited

/-- The reader's state: the phase, the field being read (reversed), the fields of the
record being read (reversed) and the records read so far (reversed). -/
structure Reading where
  phase : Phase
  field : List Char
  fields : List String
  records : List (List String)
deriving Inhabited

/-- Whether a character ends a record. -/
def isLineEnd (c : Char) : Bool := c == '\r' || c == '\n'

/-- Closes the field being read. -/
def Reading.endField (r : Reading) : Reading :=
  { r with field := [], fields := String.ofList r.field.reverse :: r.fields }

/-- Closes the field and the record being read at a line end `c`. -/
def Reading.endRecord (r : Reading) (c : Char) : Reading :=
  let r := r.endField
  { r with fields := [], records := r.fields.reverse :: r.records,
           phase := if c == '\r' then .afterCr else .recordStart }

/-- Reads a character at the start of a field. -/
def Reading.startField (delim : Char) (r : Reading) (c : Char) : Reading :=
  if c == '"' then { r with phase := .quoted }
  else if c == delim then { r.endField with phase := .fieldStart }
  else if isLineEnd c then r.endRecord c
  else { r with phase := .unquoted, field := c :: r.field }

/-- Reads one character. -/
def Reading.step (delim : Char) (r : Reading) (c : Char) : Reading :=
  match r.phase with
  | .recordStart => if isLineEnd c then r else r.startField delim c
  | .fieldStart => r.startField delim c
  | .unquoted =>
    if c == delim then { r.endField with phase := .fieldStart }
    else if isLineEnd c then r.endRecord c
    else { r with field := c :: r.field }
  | .quoted =>
    if c == '"' then { r with phase := .quoteInQuoted }
    else { r with field := c :: r.field }
  | .quoteInQuoted =>
    if c == '"' then { r with phase := .quoted, field := '"' :: r.field }
    else if c == delim then { r.endField with phase := .fieldStart }
    else if isLineEnd c then r.endRecord c
    else { r with phase := .unquoted, field := c :: r.field }
  | .afterCr =>
    if isLineEnd c then { r with phase := .recordStart }
    else { r with phase := .recordStart }.startField delim c

/-- The records read, once the text has ended. -/
def Reading.finish (r : Reading) : List (List String) :=
  match r.phase with
  | .recordStart | .afterCr => r.records.reverse
  | _ => (r.endField.fields.reverse :: r.records).reverse

/-- The byte order mark. -/
def bom : Char := Char.ofNat 0xFEFF

/-- The records read from a list of characters. -/
def recordsOf (delim : Char) (cs : List Char) : List (List String) :=
  (cs.foldl (Reading.step delim) ⟨.recordStart, [], [], []⟩).finish

/-- Characters without a leading byte order mark. -/
def skipBom : List Char → List Char
  | c :: rest => if c == bom then rest else c :: rest
  | [] => []

/-- The records of a CSV text. -/
def records (delim : Char) (text : String) : List (List String) :=
  recordsOf delim (skipBom text.toList)

/-- The row of one record under a header; all cells are texts. -/
def rowOf (header : List String) (record : List String) : Row :=
  header.zipIdx.foldl (fun r (h, i) => r.insert h (.text (record.getD i ""))) Row.empty

/-- The rows of a CSV text with a header. -/
def readTable (delim : Char) (text : String) : List Row :=
  match records delim text with
  | [] => []
  | header :: rest => rest.map (rowOf header)

/-! ## Files as bytes -/

/-- The UTF-8 bytes of a text. -/
def utf8 (s : String) : List UInt8 := s.toList.flatMap String.utf8EncodeChar

/-- How the reader sees a byte: as the character of the same number. Delimiters, quotes and
line ends are ASCII, so every byte of any other character is read as field content. -/
def byteChar (b : UInt8) : Char := Char.ofNat b.toNat

/-- The bytes of a field read from bytes. -/
def fieldBytes (f : String) : List UInt8 := f.toList.map fun c => c.toNat.toUInt8

/-- Bytes without a leading byte order mark. -/
def dropBom : List UInt8 → List UInt8
  | 0xEF :: 0xBB :: 0xBF :: rest => rest
  | bytes => bytes

/-- The length of the longest prefix of the bytes that is UTF-8. -/
def validUpTo (bytes : List UInt8) : Nat :=
  ((List.range (bytes.length + 1)).filter fun k =>
    (String.fromUTF8? (bytes.take k).toByteArray).isSome).getLast?.getD 0

/-- The fields of a record as text; or the first field that is not UTF-8, with the length
of its UTF-8 prefix. -/
def decodeRecord (fields : List String) : Except (Nat × Nat) (List String) :=
  fields.zipIdx.mapM fun (f, i) =>
    match String.fromUTF8? (fieldBytes f).toByteArray with
    | some s => .ok s
    | none => .error (i, validUpTo (fieldBytes f))

/-- The characters the reader has taken once it has read `k` records of `cs`. -/
def takenAfter (delim : Char) (cs : List Char) (k : Nat) : Nat :=
  ((List.range (cs.length + 1)).find? fun n =>
    decide (k ≤ ((cs.take n).foldl (Reading.step delim) ⟨.recordStart, [], [], []⟩).records.length)).getD
      cs.length

/-- The reader's message for a record that is not UTF-8, at the position where reading it
began. -/
def notUtf8 (record line byte field validUpTo : Nat) : String :=
  "CSV parse error: record " ++ toString record ++ " (line " ++ toString line ++ ", byte " ++
    toString byte ++ "): invalid utf-8: invalid UTF-8 in field " ++ toString field ++
    " near byte index " ++ toString validUpTo

/-- The rows of the bytes of a CSV file; the first record that is not UTF-8 fails, reported
where reading it began. -/
def readTableBytes (delim : Char) (bytes : List UInt8) : Except String (List Row) :=
  let body := dropBom bytes
  let cs := body.map byteChar
  let failure := fun (k : Nat) (bad : Nat × Nat) =>
    let taken := takenAfter delim cs k
    let byte := if k = 0 then 0 else taken + (bytes.length - body.length)
    let line := 1 + ((cs.take taken).filter (· == '\n')).length
    notUtf8 k line byte bad.1 bad.2
  match recordsOf delim cs with
  | [] => .ok []
  | header :: rest => do
    let header ← (decodeRecord header).mapError (failure 0)
    let rest ← rest.zipIdx.mapM fun (r, i) => (decodeRecord r).mapError (failure (i + 1))
    pure (rest.map (rowOf header))

/-! ## Writing -/

/-- Whether a field must be quoted. -/
def needsQuotes (delim : Char) (s : String) : Bool :=
  s.toList.any fun c => c == delim || c == '"' || c == '\r' || c == '\n'

/-- A field as written. -/
def writeField (delim : Char) (s : String) : String :=
  if needsQuotes delim s then
    "\"" ++ String.ofList (s.toList.flatMap fun c => if c == '"' then ['"', '"'] else [c]) ++ "\""
  else s

/-- A record as written, line end included. -/
def writeRecord (delim : Char) (fields : List String) : String :=
  let body := (String.ofList [delim]).intercalate (fields.map (writeField delim))
  (if body.isEmpty then "\"\"" else body) ++ "\n"

/-- The CSV text of a table: the union of the field names, then one record per row. -/
def writeTable (delim : Char) (rows : List Row) : String :=
  let columns := columnUnion rows
  if columns.isEmpty then ""
  else
    writeRecord delim columns ++
      String.join (rows.map fun (r : Row) => writeRecord delim (columns.map fun c => ((r.get? c).map Value.field).getD ""))

end Tabula.Csv
