/-! # UTF-8

  Text as bytes and back. Encoding is the core library's encoding of one
  character, applied to each. Decoding splits a byte sequence into units:
  well-formed characters, and maximal ill-formed subparts. A strict reader
  accepts the sequence only if every unit is a character; a lossy reader puts
  the replacement character U+FFFD in the place of every other unit.
-/

namespace HubAuth.Text.Utf8

/-! ### Encoding -/

/-- The bytes of a text. -/
def encode (cs : List Char) : List UInt8 :=
  cs.flatMap String.utf8EncodeChar

@[simp] theorem encode_nil : encode [] = [] := rfl

@[simp] theorem encode_cons (c : Char) (cs : List Char) :
    encode (c :: cs) = String.utf8EncodeChar c ++ encode cs := rfl

@[simp] theorem encode_append (cs ds : List Char) : encode (cs ++ ds) = encode cs ++ encode ds := by
  simp [encode]

/-! ### Decoding -/

/-- What a leading byte announces: the bits it holds itself, how many bytes
    continue the character, and the range of the first of those. -/
structure Lead where
  /-- The payload bits of the leading byte. -/
  bits : Nat
  /-- How many continuation bytes follow. -/
  more : Nat
  /-- The least first continuation byte. -/
  low : Nat := 0x80
  /-- The greatest first continuation byte. -/
  high : Nat := 0xBF

/-- The announcement of a byte; none for a byte that starts no character. The
    narrowed ranges exclude overlong forms, surrogates and values past U+10FFFF. -/
def lead? (b : Nat) : Option Lead :=
  if b < 0x80 then some { bits := b, more := 0 }
  else if b < 0xC2 then none
  else if b < 0xE0 then some { bits := b - 0xC0, more := 1 }
  else if b = 0xE0 then some { bits := 0, more := 2, low := 0xA0 }
  else if b = 0xED then some { bits := 0xD, more := 2, high := 0x9F }
  else if b < 0xF0 then some { bits := b - 0xE0, more := 2 }
  else if b = 0xF0 then some { bits := 0, more := 3, low := 0x90 }
  else if b < 0xF4 then some { bits := b - 0xF0, more := 3 }
  else if b = 0xF4 then some { bits := 4, more := 3, high := 0x8F }
  else none

/-- Reads the announced continuation bytes onto the bits so far. At the first
    byte that cannot continue the character the value is none, and that byte
    stays in the rest. -/
def continuation : (more low high bits : Nat) → List UInt8 → Option Nat × List UInt8
  | 0, _, _, bits, bs => (some bits, bs)
  | _ + 1, _, _, _, [] => (none, [])
  | more + 1, low, high, bits, b :: bs =>
    if low ≤ b.toNat ∧ b.toNat ≤ high then
      continuation more 0x80 0xBF (bits * 64 + (b.toNat - 0x80)) bs
    else (none, b :: bs)

/-- Continuation bytes are taken from the front. -/
theorem continuation_length_le (more low high bits : Nat) (bs : List UInt8) :
    (continuation more low high bits bs).2.length ≤ bs.length := by
  induction more generalizing low high bits bs with
  | zero => simp [continuation]
  | succ more ih =>
    cases bs with
    | nil => simp [continuation]
    | cons b bs =>
      simp only [continuation]
      split
      · exact Nat.le_trans (ih ..) (by simp)
      · simp

/-- The units of a byte sequence: a character, or none for a maximal
    ill-formed subpart. -/
def units : List UInt8 → List (Option Char)
  | [] => []
  | b :: bs =>
    match lead? b.toNat with
    -- A byte that starts no character is an ill-formed subpart by itself.
    | none => none :: units bs
    | some l =>
      -- The byte that breaks off a character is read again, as the next unit.
      have := continuation_length_le l.more l.low l.high l.bits bs
      let r := continuation l.more l.low l.high l.bits bs
      r.1.map Char.ofNat :: units r.2
termination_by bs => bs.length
decreasing_by all_goals (simp_all; try omega)

/-- The text of a byte sequence, with U+FFFD for each ill-formed subpart. -/
def decodeLossy (bs : List UInt8) : List Char :=
  (units bs).map fun u => u.getD (Char.ofNat 0xFFFD)

/-- The text of a well-formed byte sequence. -/
def decode? (bs : List UInt8) : Option (List Char) :=
  (units bs).mapM id

end HubAuth.Text.Utf8
