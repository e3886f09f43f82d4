import HubAuth.Base64.Symbol
import HubAuth.Text.Blank

/-! # Lenient decoding

  A key may be written with white space and padding anywhere. What is left
  after both are removed is decoded; a symbol that would stand alone in the
  last group of four carries less than an octet and is cut off before anything
  is looked up, and unused bits are not looked at.
-/

namespace HubAuth.Base64

/-- Why a text is refused. -/
inductive Fault where
  /-- A character outside ASCII remains after cleaning. -/
  | notAscii
  /-- The first character outside the alphabet: its code and its position in
      the text that is decoded. -/
  | invalidByte (code offset : Nat)
  deriving DecidableEq, Repr

/-- The text without white space and padding. -/
def cleaned (cs : List Char) : List Char :=
  cs.filter fun c => !Text.isBlank c && c != '='

/-- The text without a symbol that stands alone in the last group of four. -/
def wholeOctets (cs : List Char) : List Char :=
  if cs.length % 4 = 1 then cs.dropLast else cs

/-- The values of the symbols, the first of them at position `offset`. -/
def values (offset : Nat) : List Char → Except Fault (List Nat)
  | [] => .ok []
  | c :: cs =>
    match value? c with
    | none => .error (.invalidByte c.toNat offset)
    | some v =>
      match values (offset + 1) cs with
      | .error e => .error e
      | .ok vs => .ok (v :: vs)

/-- The bytes of a text, in which white space and padding mean nothing. -/
def decodeLenient (cs : List Char) : Except Fault (List UInt8) :=
  let symbols := cleaned cs
  -- Characters outside ASCII are looked for before the last symbol is cut off.
  if symbols.any fun c => 128 ≤ c.toNat then .error .notAscii
  else
    match values 0 (wholeOctets symbols) with
    | .error e => .error e
    | .ok vs => .ok (octets vs)

end HubAuth.Base64
