import Tabula.Cli.Host

/-!
# A model machine

A working folder, files with their bytes, folders and the two output streams; file
operations fail with the system's messages.
-/

namespace Tabula.Cli

/-- A place on the machine: the names leading to it from the root. -/
abbrev Place := List String

/-- The place a path names, seen from a working folder. -/
def locate (cwd : Place) (path : String) : Place :=
  let start := if path.startsWith "/" then [] else cwd
  (path.splitOn "/").foldl (fun acc n =>
    if n.isEmpty || n == "." then acc
    else if n == ".." then acc.dropLast
    else acc ++ [n]) start

/-- Sets the bytes at a place, in place if there is one and at the end otherwise. -/
def putFile (p : Place) (data : List UInt8) : List (Place × List UInt8) → List (Place × List UInt8)
  | [] => [(p, data)]
  | (q, d) :: rest => if q == p then (p, data) :: rest else (q, d) :: putFile p data rest

/-- A model machine. -/
structure World where
  /-- The working folder. -/
  cwd : Place
  /-- The files, with their bytes. -/
  files : List (Place × List UInt8)
  /-- The folders other than the root. -/
  dirs : List Place
  /-- What has been printed to the standard output. -/
  stdout : String := ""
  /-- What has been printed to the standard error. -/
  stderr : String := ""
deriving Inhabited

namespace World

/-- Whether a place is a folder. -/
def isDir (w : World) (p : Place) : Bool := p.isEmpty || w.dirs.contains p

/-- The bytes of the file at a place. -/
def fileAt? (w : World) (p : Place) : Option (List UInt8) := w.files.lookup p

/-- Whether a file lies on the way to a place. -/
def throughFile (w : World) (p : Place) : Bool :=
  (List.range p.length).any fun k => (w.fileAt? (p.take k)).isSome

/-- Reads a file as text. -/
def read (w : World) (path : String) : Except String String :=
  let p := locate w.cwd path
  match w.fileAt? p with
  | some data => match String.fromUTF8? data.toByteArray with
    | some text => .ok text
    | none => .error notUtf8Text
  | none =>
    if w.isDir p then .error isADirectory
    else if w.throughFile p then .error notADirectory
    else .error noSuchFile

/-- Creates a folder and the missing folders above it. -/
def makeDirs (w : World) (path : String) : Except String World :=
  let p := locate w.cwd path
  if w.isDir p then .ok w
  else if (w.fileAt? p).isSome then .error fileExists
  else if w.throughFile p then .error notADirectory
  else
    let above := (List.range p.length).map fun k => p.take (k + 1)
    .ok { w with dirs := w.dirs ++ above.filter fun q => !w.isDir q }

/-- Replaces the bytes of a file in an existing folder. -/
def write (w : World) (path : String) (data : List UInt8) : Except String World :=
  let p := locate w.cwd path
  if w.isDir p then .error isADirectory
  else if w.throughFile p then .error notADirectory
  else if !w.isDir p.dropLast then .error noSuchFile
  else .ok { w with files := putFile p data w.files }

/-- The files directly inside a folder, by name, sorted. -/
def filesIn (w : World) (dir : Place) : List (String × List UInt8) :=
  let inside := w.files.filterMap fun (p, d) =>
    match p.reverse with
    | name :: up => if up.reverse == dir then some (name, d) else none
    | [] => none
  inside.mergeSort fun a b => decide (a.1 ≤ b.1)

/-- Runs an operation that may change the machine. -/
def change (f : World → Except String World) : StateM World (Except String Unit) := do
  match f (← get) with
  | .ok w =>
    set w
    pure (.ok ())
  | .error m => pure (.error m)

/-- The model machine as a host. -/
def host : Host (StateM World) where
  readFile path := do pure ((← get).read path)
  tableFile path := do
    let w ← get
    pure ((w.fileAt? (locate w.cwd path)).map .bytes)
  makeDirs path := change fun w => w.makeDirs path
  writeFile path data := change fun w => w.write path data
  out s := modify fun w => { w with stdout := w.stdout ++ s }
  err s := modify fun w => { w with stderr := w.stderr ++ s }

end World

end Tabula.Cli
