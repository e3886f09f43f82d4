import HubAuth.Failure
import HubAuth.Files.Path

/-! # Files

  The files of a machine, as a value. Reading follows a path one name at a
  time, from the root or from the working directory, and every name but the
  last must be that of a directory. What is locked is there but may not be
  used. There are no links, so that two dots undo the name before them.
-/

namespace HubAuth.Files

/-! ### Trees -/

/-- What a name stands for. -/
inductive Node where
  /-- A file with its bytes. -/
  | file (contents : List UInt8)
  /-- A directory. -/
  | directory
  deriving DecidableEq, Repr

/-- Files and directories, each with the names that lead to it from the root.
    Directories on the way to an entry need no entry of their own. -/
structure Tree where
  /-- The entries; of several with the same names the first one counts. -/
  entries : List (List String × Node) := []
  /-- The names of what may be neither opened nor passed. -/
  locked : List (List String) := []
  /-- Where a path begins that does not begin at the root. -/
  workingDirectory : List String := []
  deriving DecidableEq, Repr

namespace Tree

/-- What stands at the end of the given names. -/
def find? (t : Tree) (names : List String) : Option Node :=
  match t.entries.find? fun e => e.1 == names with
  | some e => some e.2
  | none =>
    if names.isPrefixOf t.workingDirectory || t.entries.any fun e => names.isPrefixOf e.1 then
      some .directory
    else none

/-- What stands at the end of the given names may be neither opened nor passed. -/
def isLocked (t : Tree) (names : List String) : Bool :=
  t.locked.contains names

/-- The tree with nothing at the end of the given names. -/
def remove (t : Tree) (names : List String) : Tree :=
  { t with entries := t.entries.filter fun e => e.1 != names }

/-- The tree with a node at the end of the given names. -/
def put (t : Tree) (names : List String) (n : Node) : Tree :=
  { t with entries := (names, n) :: (t.remove names).entries }

/-! ### Following a path -/

/-- The names that lead one name further on from a directory. Two dots lead
    back, but not beyond the root. -/
def enter (names : List String) (name : String) : List String :=
  if name = "" ∨ name = "." then names
  else if name = ".." then names.dropLast
  else names ++ [name]

/-- The longest name, in bytes. -/
def maxName : Nat := 255

/-- The longest path, in bytes. -/
def maxPath : Nat := 4095

/-- The length of a text in bytes. -/
def byteLength (s : String) : Nat :=
  (Text.Utf8.encode s.toList).length

/-- Follows more names from the end of the given ones. The node that is passed
    must be a directory, and the one that is reached must exist. -/
def follow (t : Tree) (names : List String) : List String → Except FileFault Node
  | [] =>
    match t.find? names with
    | none => .error .notFound
    | some n => if t.isLocked names then .error .permissionDenied else .ok n
  | name :: more =>
    match t.find? names with
    | none => .error .notFound
    | some (.file _) => .error .notADirectory
    | some .directory =>
      if t.isLocked names then .error .permissionDenied
      -- The length counts only where the name is looked up.
      else if maxName < byteLength name then .error .nameTooLong
      else t.follow (enter names name) more

/-! ### Reading -/

/-- What a path leads to. -/
def resolve (t : Tree) (p : Path) : Except FileFault Node :=
  if p.text.toList.contains '\x00' then .error .zeroInName
  else if maxPath < byteLength p.text then .error .nameTooLong
  else if p.isEmpty then .error .notFound
  else t.follow (if p.isAbsolute then [] else t.workingDirectory) p.pieces

/-- The text of the file that a path leads to. -/
def read (t : Tree) (p : Path) : Except FileFault String :=
  match t.resolve p with
  | .error e => .error e
  | .ok .directory => .error .isADirectory
  | .ok (.file contents) =>
    match Text.Utf8.decode? contents with
    | some cs => .ok (String.ofList cs)
    | none => .error .notText

end Tree

end HubAuth.Files
