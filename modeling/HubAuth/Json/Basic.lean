/-! # Reading JSON

  Readers take characters from the front of a text and give what they read
  and the rest. A reader stops at the first fault, so a text has at most one,
  and it is the leftmost. This module has the faults and what all readers
  share; values themselves are never built, since a document is either taken
  up field by field or skipped.
-/

namespace HubAuth.Json

/-! ### Faults -/

/-- Why a text is refused. -/
inductive Fault where
  /-- No JSON text goes on like this. -/
  | malformed
  /-- The text ends too early. -/
  | truncated
  /-- The value is not of the kind that is needed. -/
  | unsuitable
  deriving DecidableEq, Repr

/-! ### White space and words -/

/-- The characters that may stand between the parts of a text. -/
def isSpace (c : Char) : Bool :=
  c == ' ' || c == '\n' || c == '\t' || c == '\r'

/-- The text without the white space at its front. -/
def skipSpace (cs : List Char) : List Char :=
  cs.dropWhile isSpace

/-- Takes the given word from the front. -/
def word : List Char → List Char → Except Fault (List Char)
  | [], cs => .ok cs
  | _ :: _, [] => .error .truncated
  | w :: ws, c :: cs => if c = w then word ws cs else .error .malformed

/-- Takes a mark from the front, after white space. -/
def mark (m : Char) (cs : List Char) : Except Fault (List Char) :=
  word [m] (skipSpace cs)

/-! ### The end -/

/-- Nothing but white space follows. -/
def finish (cs : List Char) : Except Fault Unit :=
  match skipSpace cs with
  | [] => .ok ()
  | _ :: _ => .error .malformed

end HubAuth.Json
