import HubAuth.Json.Basic
import HubAuth.Text.Decimal

/-! # Numbers in JSON

  A reader of natural numbers accepts digits without sign, fraction or
  exponent, below 2^64. Every other number is unsuitable, unless it is
  malformed or too large for a double, which is found out first: the value is
  then the product of two doubles, the first digits that fit a word and a
  power of ten.
-/

namespace HubAuth.Json

/-- The greatest natural number that is accepted: 2^64 - 1. -/
def maxWord : Nat :=
  18446744073709551615

/-- The greatest exponent that is read exactly: 2^31 - 1. -/
def maxExponent : Nat :=
  2147483647

/-- A decimal digit. -/
def isDigit (c : Char) : Bool :=
  (Text.digit? c).isSome

/-! ### Range of doubles -/

/-- The double nearest to a natural number, which must be below 2^1024. Of two
    that are equally near it is the even one. -/
def nearestDouble (n : Nat) : Nat :=
  let unit := Nat.pow 2 (n.log2 - 52)
  let q := n / unit
  let r := n % unit
  if unit < 2 * r ∨ (2 * r = unit ∧ q % 2 = 1) then (q + 1) * unit else q * unit

/-- A natural number that is rounded to infinity. -/
def isInfinite (n : Nat) : Bool :=
  Nat.pow 2 1024 - Nat.pow 2 970 ≤ n

/-- A decimal significand and exponent that are beyond all doubles. -/
def beyondRange (significand : Nat) (exponent : Int) : Bool :=
  match exponent with
  | .negSucc _ => false
  | .ofNat e =>
    -- No power of ten beyond this one is a double.
    if 308 < e then significand != 0
    else isInfinite (nearestDouble significand * nearestDouble (Nat.pow 10 e))

/-- The fault of a number that is not a natural one. -/
def numberFault (significand : Nat) (exponent : Int) : Fault :=
  if beyondRange significand exponent then .malformed else .unsuitable

/-! ### Digits, fraction and exponent -/

/-- Reads digits onto a value as long as it stays within a limit. Gives the
    value, how many digits were read, and the rest. -/
def absorb (limit value count : Nat) : List Char → Nat × Nat × List Char
  | [] => (value, count, [])
  | c :: cs =>
    match Text.digit? c with
    | none => (value, count, c :: cs)
    | some d =>
      if value * 10 + d ≤ limit then absorb limit (value * 10 + d) (count + 1) cs
      else (value, count, c :: cs)

/-- The fault of a number with an exponent, from behind the letter. -/
def exponentFault (significand : Nat) (exponent : Int) (cs : List Char) : Fault :=
  let (negative, cs) :=
    match cs with
    | '+' :: cs => (false, cs)
    | '-' :: cs => (true, cs)
    | cs => (false, cs)
  match cs with
  | [] => .truncated
  | c :: _ =>
    if isDigit c then
      let (e, _, rest) := absorb maxExponent 0 0 cs
      -- An exponent that does not fit decides by its sign alone.
      if rest.head?.any isDigit then
        if significand ≠ 0 ∧ negative = false then .malformed else .unsuitable
      else numberFault significand (if negative then exponent - e else exponent + e)
    else .malformed

/-- The fault of a number with a fraction, from behind the point. -/
def fractionFault (significand : Nat) (exponent : Int) (cs : List Char) : Fault :=
  match cs with
  | [] => .truncated
  | c :: _ =>
    if isDigit c then
      let (s, count, rest) := absorb maxWord significand 0 cs
      match rest.dropWhile isDigit with
      | 'e' :: cs | 'E' :: cs => exponentFault s (exponent - count) cs
      | _ => numberFault s (exponent - count)
    else .malformed

/-! ### Natural numbers -/

/-- Reads a natural number after its first digit has been found to be one
    that may begin it. -/
def naturalFrom (cs : List Char) : Except Fault (Nat × List Char) :=
  let (n, _, rest) := absorb maxWord 0 0 cs
  -- Digits that do not fit a word only count as powers of ten.
  let more := rest.takeWhile isDigit
  match rest.dropWhile isDigit with
  | '.' :: cs => .error (fractionFault n more.length cs)
  | 'e' :: cs | 'E' :: cs => .error (exponentFault n more.length cs)
  | cs => if more.isEmpty then .ok (n, cs) else .error (numberFault n more.length)

/-- Reads an unsigned number: a zero ends the digits it begins. -/
def unsigned : List Char → Except Fault (Nat × List Char)
  | [] => .error .truncated
  | c :: cs =>
    if c = '0' then
      if cs.head?.any isDigit then .error .malformed else naturalFrom (c :: cs)
    else if isDigit c then naturalFrom (c :: cs)
    else .error .malformed

/-- Reads a natural number. A negative number is unsuitable, even zero. -/
def natural : List Char → Except Fault (Nat × List Char)
  | '-' :: cs => do
    let _ ← unsigned cs
    throw .unsuitable
  | cs => unsigned cs

/-! ### Skipping -/

/-- Skips at least one digit. -/
def skipDigits : List Char → Except Fault (List Char)
  | [] => .error .malformed
  | c :: cs => if isDigit c then .ok (cs.dropWhile isDigit) else .error .malformed

/-- Skips an exponent, if there is one. -/
def skipExponent : List Char → Except Fault (List Char)
  | 'e' :: '+' :: cs | 'E' :: '+' :: cs | 'e' :: '-' :: cs | 'E' :: '-' :: cs
  | 'e' :: cs | 'E' :: cs => skipDigits cs
  | cs => .ok cs

/-- Skips a fraction, if there is one. -/
def skipFraction : List Char → Except Fault (List Char)
  | '.' :: cs => skipDigits cs
  | cs => .ok cs

/-- Skips the digits before the point. -/
def skipWhole : List Char → Except Fault (List Char)
  | [] => .error .malformed
  | c :: cs =>
    if c = '0' then if cs.head?.any isDigit then .error .malformed else .ok cs
    else skipDigits (c :: cs)

/-- Skips a number after its sign. -/
def skipNumber (cs : List Char) : Except Fault (List Char) := do
  skipExponent (← skipFraction (← skipWhole cs))

end HubAuth.Json
