/-! # Base64

  The standard alphabet, in which a symbol carries six bits, and the padded
  encoding of bytes. Decoding is about bit strings: the values of the symbols
  in a row, cut into octets, with the bits that fill no octet dropped.

  * `value?_symbol`: reading a symbol gives its value back.
-/

namespace HubAuth.Base64

/-! ### The alphabet -/

/-- The symbol of a value below 64. -/
def symbol (v : Nat) : Char :=
  if v < 26 then Char.ofNat ('A'.toNat + v)
  else if v < 52 then Char.ofNat ('a'.toNat + (v - 26))
  else if v < 62 then Char.ofNat ('0'.toNat + (v - 52))
  else if v = 62 then '+'
  else '/'

/-- The value of a symbol; none for a character outside the alphabet. -/
def value? (c : Char) : Option Nat :=
  if 'A' ≤ c ∧ c ≤ 'Z' then some (c.toNat - 'A'.toNat)
  else if 'a' ≤ c ∧ c ≤ 'z' then some (c.toNat - 'a'.toNat + 26)
  else if '0' ≤ c ∧ c ≤ '9' then some (c.toNat - '0'.toNat + 52)
  else if c = '+' then some 62
  else if c = '/' then some 63
  else none

/-- Reading a symbol gives its value back. -/
theorem value?_symbol : ∀ v < 64, value? (symbol v) = some v := by
  decide

/-! ### Encoding -/

/-- The standard encoding, padded to groups of four. -/
def encode : List UInt8 → List Char
  | a :: b :: c :: bs =>
    symbol (a.toNat / 4) :: symbol (a.toNat % 4 * 16 + b.toNat / 16)
      :: symbol (b.toNat % 16 * 4 + c.toNat / 64) :: symbol (c.toNat % 64) :: encode bs
  | [a, b] =>
    [symbol (a.toNat / 4), symbol (a.toNat % 4 * 16 + b.toNat / 16), symbol (b.toNat % 16 * 4), '=']
  | [a] => [symbol (a.toNat / 4), symbol (a.toNat % 4 * 16), '=', '=']
  | [] => []

/-! ### Bits -/

/-- The octets of a row of six-bit values. Four values make three octets; the
    bits left over at the end are dropped. -/
def octets : List Nat → List UInt8
  | a :: b :: c :: d :: vs =>
    UInt8.ofNat (a * 4 + b / 16) :: UInt8.ofNat (b % 16 * 16 + c / 4)
      :: UInt8.ofNat (c % 4 * 64 + d) :: octets vs
  | [a, b, c] => [UInt8.ofNat (a * 4 + b / 16), UInt8.ofNat (b % 16 * 16 + c / 4)]
  | [a, b] => [UInt8.ofNat (a * 4 + b / 16)]
  | _ => []

end HubAuth.Base64
