import HubAuth.Json.Basic
import HubAuth.Text.Utf8

/-! # Texts in JSON

  A text stands between double quotes. A backslash starts an escape: a short
  name, or `u` and four hexadecimal digits for a UTF-16 code unit. A reader
  that needs the characters joins surrogate pairs and refuses a surrogate that
  stands alone; a reader that only skips the text looks at the digits alone.
-/

namespace HubAuth.Json

/-! ### Escapes -/

/-- The value of a hexadecimal digit in either case. -/
def hexDigit? (c : Char) : Option Nat :=
  if '0' ≤ c ∧ c ≤ '9' then some (c.toNat - '0'.toNat)
  else if 'a' ≤ c ∧ c ≤ 'f' then some (c.toNat - 'a'.toNat + 10)
  else if 'A' ≤ c ∧ c ≤ 'F' then some (c.toNat - 'A'.toNat + 10)
  else none

/-- Reads the four digits of a code unit. Whether a text that holds fewer than
    four characters was cut off is decided by its length in bytes. -/
def codeUnit : List Char → Except Fault (Nat × List Char)
  | a :: b :: c :: d :: cs =>
    match hexDigit? a, hexDigit? b, hexDigit? c, hexDigit? d with
    | some a, some b, some c, some d => .ok (((a * 16 + b) * 16 + c) * 16 + d, cs)
    | _, _, _, _ => .error .malformed
  | cs => .error (if (Text.Utf8.encode cs).length < 4 then .truncated else .malformed)

/-- The character of a short name. -/
def shortEscape? (c : Char) : Option Char :=
  if c = '"' ∨ c = '\\' ∨ c = '/' then some c
  else if c = 'b' then some '\x08'
  else if c = 'f' then some '\x0c'
  else if c = 'n' then some '\n'
  else if c = 'r' then some '\r'
  else if c = 't' then some '\t'
  else none

/-- Reads the second half of a surrogate pair after its first half. -/
def trailing (first : Nat) (cs : List Char) : Except Fault (Char × List Char) := do
  let cs ← word ['\\', 'u'] cs
  let (second, cs) ← codeUnit cs
  if 0xDC00 ≤ second ∧ second ≤ 0xDFFF then
    return (Char.ofNat (0x10000 + (first - 0xD800) * 0x400 + (second - 0xDC00)), cs)
  else throw .malformed

/-- Reads the character of an escape, after the backslash. -/
def escape : List Char → Except Fault (Char × List Char)
  | [] => .error .truncated
  | c :: cs =>
    if c = 'u' then do
      let (unit, cs) ← codeUnit cs
      if 0xDC00 ≤ unit ∧ unit ≤ 0xDFFF then throw .malformed
      else if 0xD800 ≤ unit ∧ unit ≤ 0xDBFF then trailing unit cs
      else return (Char.ofNat unit, cs)
    else
      match shortEscape? c with
      | some e => .ok (e, cs)
      | none => .error .malformed

/-! ### Whole texts -/

/-- Reads the characters of a text up to its closing quote. The first number
    bounds how many characters are read. -/
def textFrom : Nat → List Char → Except Fault (List Char × List Char)
  | 0, _ => .error .truncated
  | _ + 1, [] => .error .truncated
  | n + 1, c :: cs =>
    if c = '"' then .ok ([], cs)
    else if c = '\\' then do
      let (e, cs) ← escape cs
      let (text, cs) ← textFrom n cs
      return (e :: text, cs)
    else if c < ' ' then .error .malformed
    else do
      let (text, cs) ← textFrom n cs
      return (c :: text, cs)

/-- Reads a text after its opening quote. -/
def text (cs : List Char) : Except Fault (List Char × List Char) :=
  textFrom cs.length cs

/-- Skips an escape, after the backslash. -/
def skipEscape : List Char → Except Fault (List Char)
  | [] => .error .truncated
  | c :: cs =>
    if c = 'u' then (codeUnit cs).map Prod.snd
    else if (shortEscape? c).isSome then .ok cs
    else .error .malformed

/-- Skips a text up to its closing quote. The first number bounds how many
    characters are skipped. -/
def skipTextFrom : Nat → List Char → Except Fault (List Char)
  | 0, _ => .error .truncated
  | _ + 1, [] => .error .truncated
  | n + 1, c :: cs =>
    if c = '"' then .ok cs
    else if c = '\\' then do skipTextFrom n (← skipEscape cs)
    else if c < ' ' then .error .malformed
    else skipTextFrom n cs

/-- Skips a text after its opening quote. -/
def skipText (cs : List Char) : Except Fault (List Char) :=
  skipTextFrom cs.length cs

end HubAuth.Json
