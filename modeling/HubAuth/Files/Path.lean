import HubAuth.Text.Utf8

/-! # Paths

  A path is kept as it was written. It is followed name by name, and compared
  by its names, so that doubled slashes and dots on the way do not count.
-/

namespace HubAuth.Files

/-- The path of a file. -/
structure Path where
  /-- The path as it was written. -/
  text : String
  deriving DecidableEq, Repr

namespace Path

/-- The texts between slashes. -/
def pieces (p : Path) : List String :=
  (p.text.toList.splitOn '/').map String.ofList

/-- The path has no characters. -/
def isEmpty (p : Path) : Bool :=
  p.text == ""

/-- The path begins at the root. -/
def isAbsolute (p : Path) : Bool :=
  p.text.toList.head? == some '/'

/-- The names that lead on from where the path begins: none of them is empty
    or a dot. -/
def steps (p : Path) : List String :=
  p.pieces.filter fun n => n != "" && n != "."

/-- The names on the way. A dot is a name only at the very beginning. -/
def names (p : Path) : List String :=
  if p.pieces.head? == some "." then "." :: p.steps else p.steps

/-- Two paths are written alike: both begin at the root or neither does, and
    they have the same names. -/
def same (p q : Path) : Bool :=
  p.isAbsolute == q.isAbsolute && p.names == q.names

end Path

end HubAuth.Files
