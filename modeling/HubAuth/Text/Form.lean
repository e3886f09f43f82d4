import HubAuth.Text.Cut
import HubAuth.Text.Utf8

/-! # Form encoding

  The encoding `application/x-www-form-urlencoded` of names and values. A
  written value keeps letters, digits and `* - . _`, has a plus sign for the
  space, and a percent sign with two upper-case hexadecimal digits for every
  other byte. A reader splits at `&` and at the first `=`, takes a plus sign
  for a space before it resolves the percent escapes, keeps a percent sign
  that starts no escape, and replaces what is not UTF-8.
-/

namespace HubAuth.Text.Form

/-! ### Writing -/

/-- The byte of an ASCII character. -/
def byte (c : Char) : UInt8 :=
  UInt8.ofNat c.toNat

/-- The bytes that stand for themselves. -/
def isPlain (b : UInt8) : Bool :=
  let n := b.toNat
  (0x30 ≤ n && n ≤ 0x39) || (0x41 ≤ n && n ≤ 0x5A) || (0x61 ≤ n && n ≤ 0x7A)
    || b == byte '*' || b == byte '-' || b == byte '.' || b == byte '_'

/-- A digit below sixteen, in upper case. -/
def hexDigit (n : Nat) : Char :=
  Char.ofNat (if n < 10 then 0x30 + n else 0x37 + n)

/-- The written form of one byte. -/
def encodeByte (b : UInt8) : List Char :=
  if isPlain b then [Char.ofNat b.toNat]
  else if b == byte ' ' then ['+']
  else ['%', hexDigit (b.toNat / 16), hexDigit (b.toNat % 16)]

/-- The written form of a text. -/
def encode (cs : List Char) : List Char :=
  (Utf8.encode cs).flatMap encodeByte

/-! ### Reading -/

/-- The value of a hexadecimal digit of either case. -/
def hexValue? (b : UInt8) : Option Nat :=
  let n := b.toNat
  if 0x30 ≤ n ∧ n ≤ 0x39 then some (n - 0x30)
  else if 0x41 ≤ n ∧ n ≤ 0x46 then some (n - 0x37)
  else if 0x61 ≤ n ∧ n ≤ 0x66 then some (n - 0x57)
  else none

/-- Resolves the percent escapes. A percent sign without two digits after it
    stands for itself. -/
def unescape : List UInt8 → List UInt8
  | a :: b :: c :: bs =>
    if a = byte '%' then
      match hexValue? b, hexValue? c with
      | some h, some l => UInt8.ofNat (16 * h + l) :: unescape bs
      -- The two bytes after it may start an escape themselves.
      | _, _ => a :: unescape (b :: c :: bs)
    else a :: unescape (b :: c :: bs)
  | bs => bs

/-- The text of a written name or value. -/
def decode (bs : List UInt8) : List Char :=
  Utf8.decodeLossy (unescape (bs.map fun b => if b = byte '+' then byte ' ' else b))

/-- The name and value of one field; a field without `=` has the empty value. -/
def field (bs : List UInt8) : List Char × List Char :=
  match cutAt (byte '=') bs with
  | some (name, value) => (decode name, decode value)
  | none => (decode bs, [])

/-- The fields of a form in order. Empty pieces between separators are skipped. -/
def fields (cs : List Char) : List (List Char × List Char) :=
  ((List.splitOn (byte '&') (Utf8.encode cs)).filter fun piece => !piece.isEmpty).map field

end HubAuth.Text.Form
