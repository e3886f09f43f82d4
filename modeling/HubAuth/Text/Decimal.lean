/-! # Decimal numbers

  Integers in decimal notation: written without leading zeros or a plus sign,
  read with an optional sign and any number of leading zeros.
-/

namespace HubAuth.Text

/-! ### Writing -/

/-- A natural number in decimal notation. -/
def decimal (n : Nat) : List Char :=
  Nat.toDigits 10 n

/-- An integer in decimal notation, with a sign if it is negative. -/
def signedDecimal : Int → List Char
  | .ofNat n => decimal n
  | .negSucc n => '-' :: decimal (n + 1)

/-! ### Reading -/

/-- The value of one ASCII digit. -/
def digit? (c : Char) : Option Nat :=
  if '0' ≤ c ∧ c ≤ '9' then some (c.toNat - '0'.toNat) else none

/-- Reads digits onto the number so far. -/
def readDigits (n : Nat) : List Char → Option Nat
  | [] => some n
  | c :: cs => (digit? c).bind fun d => readDigits (10 * n + d) cs

/-- Reads a non-empty sequence of digits. -/
def readDecimal? : List Char → Option Nat
  | [] => none
  | cs => readDigits 0 cs

/-- Reads digits after at most one sign. -/
def readSigned? : List Char → Option Int
  | '-' :: cs => (readDecimal? cs).map fun n => -(n : Int)
  | '+' :: cs => (readDecimal? cs).map fun n => (n : Int)
  | cs => (readDecimal? cs).map fun n => (n : Int)

end HubAuth.Text
