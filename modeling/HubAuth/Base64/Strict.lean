import HubAuth.Base64.Symbol

/-! # Strict decoding

  What counts as canonical base64: symbols of the alphabet only, unused bits
  zero, and padding that is absent or stands at the end, within the last group
  of four, which holds at least two symbols. The padding may be shorter than
  the group asks for.
-/

namespace HubAuth.Base64

/-- The bits of the last symbol that belong to no octet are zero. -/
def unusedBitsZero (values : List Nat) : Bool :=
  match values.length % 4, values.getLast? with
  | 2, some v => v % 16 == 0
  | 3, some v => v % 4 == 0
  | _, _ => true

/-- Padding that may follow `symbols` symbols: none after a whole group or
    after one symbol, and otherwise no more than fills the group. -/
def paddingAllowed (symbols padding : Nat) : Bool :=
  padding == 0 || (2 ≤ symbols % 4 && symbols % 4 + padding ≤ 4)

/-- The bytes of a canonical text. -/
def decodeStrict? (cs : List Char) : Option (List UInt8) :=
  let body := cs.takeWhile (· != '=')
  let padding := cs.dropWhile (· != '=')
  -- One symbol more than whole groups carries no octet.
  if cs.length % 4 = 1 then none
  else if padding.any (· != '=') then none
  else if !paddingAllowed body.length padding.length then none
  else
    match body.mapM value? with
    | none => none
    | some values => if unusedBitsZero values then some (octets values) else none

end HubAuth.Base64
