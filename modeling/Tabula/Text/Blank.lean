/-!
# Blank characters

The characters with the Unicode property White_Space, and trimming by them.
-/

namespace Tabula.Text

/-- A character is blank when it has the Unicode property White_Space. -/
def isBlank (c : Char) : Bool :=
  let n := c.toNat
  (0x09 ≤ n && n ≤ 0x0D) || n == 0x20 || n == 0x85 || n == 0xA0 || n == 0x1680 ||
    (0x2000 ≤ n && n ≤ 0x200A) || n == 0x2028 || n == 0x2029 || n == 0x202F ||
    n == 0x205F || n == 0x3000

/-- Drops the blank characters at both ends of a character list. -/
def trimChars (cs : List Char) : List Char :=
  ((cs.dropWhile isBlank).reverse.dropWhile isBlank).reverse

/-- Drops the blank characters at both ends of a string. -/
def trim (s : String) : String :=
  String.ofList (trimChars s.toList)

/-- Drops the blank characters at the start of a string. -/
def trimStart (s : String) : String :=
  String.ofList (s.toList.dropWhile isBlank)

/-- The maximal runs of non-blank characters, in order. -/
def words (s : String) : List String :=
  go s.toList [] []
where
  /-- `cur` holds the current word reversed, `acc` the finished words reversed. -/
  go : List Char → List Char → List String → List String
    | [], cur, acc => (if cur.isEmpty then acc else String.ofList cur.reverse :: acc).reverse
    | c :: cs, cur, acc =>
      if isBlank c then
        go cs [] (if cur.isEmpty then acc else String.ofList cur.reverse :: acc)
      else go cs (c :: cur) acc

end Tabula.Text
