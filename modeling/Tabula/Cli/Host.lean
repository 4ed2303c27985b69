import Tabula.Store

/-!
# What the command line needs from its machine

The operations the command line performs on a machine, in a monad, so that one program
runs against the real machine and against a model of one.
-/

namespace Tabula.Cli

/-- The operations the command line needs from the machine it runs on. -/
structure Host (m : Type → Type) where
  /-- The text of a file, or why it cannot be read. -/
  readFile : String → m (Except String String)
  /-- What a regular file at the path holds, or why it cannot be read; nothing when there
  is no regular file at the path. -/
  tableFile : String → m (Option FileRead)
  /-- Creates a folder and the folders above it that are missing. -/
  makeDirs : String → m (Except String Unit)
  /-- Replaces the bytes of a file. -/
  writeFile : String → List UInt8 → m (Except String Unit)
  /-- Prints to the standard output. -/
  out : String → m Unit
  /-- Prints to the standard error. -/
  err : String → m Unit

/-- The system's message for a missing file or folder. -/
def noSuchFile : String := "No such file or directory (os error 2)"

/-- The system's message for a path that runs through a file. -/
def notADirectory : String := "Not a directory (os error 20)"

/-- The system's message for reading or writing a folder as a file. -/
def isADirectory : String := "Is a directory (os error 21)"

/-- The system's message for creating a folder where a file is. -/
def fileExists : String := "File exists (os error 17)"

/-- The system's message for reading a file that is not UTF-8 as text. -/
def notUtf8Text : String := "stream did not contain valid UTF-8"

end Tabula.Cli
