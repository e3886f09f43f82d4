import HubAuth.Text.Unseen

/-! # Quoted text and records

  The quoted form in which descriptions show a text: double quotes around it,
  a backslash before what would end it, short names for the usual controls,
  and the code point for every other character that is not shown as itself.
  A value is described by its name and its fields in order, an optional value
  by whether it is there.
-/

namespace HubAuth.Text

/-! ### One character -/

/-- A code point in lower-case hexadecimal, without leading zeros. -/
def hex (n : Nat) : List Char :=
  Nat.toDigits 16 n

/-- A character inside quotes. File names also escape the apostrophe. -/
def escape (apostrophe : Bool) (c : Char) : List Char :=
  if c = '\x00' then ['\\', '0']
  else if c = '\t' then ['\\', 't']
  else if c = '\n' then ['\\', 'n']
  else if c = '\r' then ['\\', 'r']
  else if c = '"' ∨ c = '\\' ∨ (apostrophe = true ∧ c = '\'') then ['\\', c]
  else if isUnseen c then ['\\', 'u', '\x7b'] ++ hex c.toNat ++ ['\x7d']
  else [c]

/-! ### Whole texts -/

/-- A text between double quotes, each character escaped. -/
def quoteWith (apostrophe : Bool) (s : String) : String :=
  String.ofList ('"' :: s.toList.flatMap (escape apostrophe) ++ ['"'])

/-- A text in quotes. -/
def quoted (s : String) : String :=
  quoteWith false s

/-- A file name in quotes. -/
def quotedPath (s : String) : String :=
  quoteWith true s

/-! ### Records -/

/-- A record: its name, then its fields with their values. -/
def record (name : String) (fields : List (String × String)) : String :=
  name ++ " \x7b " ++ String.intercalate ", " (fields.map fun f => f.1 ++ ": " ++ f.2) ++ " \x7d"

/-- A value that may be absent. -/
def optional : Option String → String
  | none => "None"
  | some value => "Some(" ++ value ++ ")"

/-- A truth value. -/
def truth (b : Bool) : String :=
  if b then "true" else "false"

/-- What stands in the place of a secret. -/
def redacted : String :=
  quoted "<redacted>"

end HubAuth.Text
