import HubAuth.Json.Number
import HubAuth.Json.Text

/-! # Skipping values

  A value of no interest must still be well formed. It is skipped with a stack
  of the brackets that are open, so that values may be nested to any depth,
  and a note of what comes next.
-/

namespace HubAuth.Json

/-! ### What is expected -/

/-- A bracket that is open. -/
inductive Bracket where
  /-- The bracket of an array. -/
  | array
  /-- The bracket of an object. -/
  | object
  deriving DecidableEq, Repr

/-- The mark that closes a bracket. -/
def Bracket.closing : Bracket → Char
  | .array => ']'
  | .object => '\x7d'

/-- What comes next. -/
inductive Expected where
  /-- A value. -/
  | value
  /-- The first part inside the innermost bracket, or its end. -/
  | first
  /-- A comma or the end of the innermost bracket; with no bracket open,
      nothing. -/
  | more
  /-- The name of a member. -/
  | name
  deriving DecidableEq, Repr

/-- What every part inside a bracket begins with. -/
def Bracket.part : Bracket → Expected
  | .array => .value
  | .object => .name

/-! ### Simple values -/

/-- Skips a value that holds no other value, or opens a bracket: the bracket,
    if any, and the rest. -/
def enter (cs : List Char) : Except Fault (Option Bracket × List Char) :=
  match skipSpace cs with
  | [] => .error .truncated
  | c :: cs =>
    if c = '[' then .ok (some .array, cs)
    else if c = '\x7b' then .ok (some .object, cs)
    else if c = '"' then (skipText cs).map fun r => (none, r)
    else if c = '-' then (skipNumber cs).map fun r => (none, r)
    else if isDigit c then (skipNumber (c :: cs)).map fun r => (none, r)
    else if c = 'n' then (word "ull".toList cs).map fun r => (none, r)
    else if c = 't' then (word "rue".toList cs).map fun r => (none, r)
    else if c = 'f' then (word "alse".toList cs).map fun r => (none, r)
    else .error .malformed

/-- Skips the name of a member and the colon after it. -/
def skipName (cs : List Char) : Except Fault (List Char) := do
  mark ':' (← skipText (← mark '"' cs))

/-! ### The machine -/

/-- Skips what is expected inside the open brackets, the innermost first. The
    first number bounds the number of steps. -/
def skipFrom : Nat → List Bracket → Expected → List Char → Except Fault (List Char)
  | 0, _, _, _ => .error .truncated
  | n + 1, stack, .value, cs => do
    match ← enter cs with
    | (some b, cs) => skipFrom n (b :: stack) .first cs
    | (none, cs) => skipFrom n stack .more cs
  | n + 1, stack, .name, cs => do
    skipFrom n stack .value (← skipName cs)
  -- With no bracket open, the value is complete.
  | _ + 1, [], _, cs => .ok cs
  | n + 1, b :: stack, .first, cs =>
    match skipSpace cs with
    | [] => .error .truncated
    | c :: cs =>
      if c = b.closing then skipFrom n stack .more cs
      else skipFrom n (b :: stack) b.part (c :: cs)
  | n + 1, b :: stack, .more, cs =>
    match skipSpace cs with
    | [] => .error .truncated
    | c :: cs =>
      if c = b.closing then skipFrom n stack .more cs
      else if c = ',' then skipFrom n (b :: stack) b.part cs
      else .error .malformed

/-- Skips a value. Two steps for every character are enough. -/
def skip (cs : List Char) : Except Fault (List Char) :=
  skipFrom (2 * cs.length + 2) [] .value cs

end HubAuth.Json
