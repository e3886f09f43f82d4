/-! # Big-endian numbers

  Numbers as bytes, the most significant byte first, and the front of a byte
  sequence.

  * `natOf_bytesOf`: a number is read back if it has enough bytes.
  * `split?_append`: the front is told apart from the rest by its length.
-/

namespace HubAuth.Binary

/-- The number that bytes stand for. -/
def natOf (bytes : List UInt8) : Nat :=
  bytes.foldl (fun n b => n * 256 + b.toNat) 0

/-- The low bytes of a number, as many as the first argument says. -/
def bytesOf : Nat → Nat → List UInt8
  | 0, _ => []
  | width + 1, n => bytesOf width (n / 256) ++ [UInt8.ofNat n]

/-- The first bytes and the rest, if there are as many as asked for. -/
def split? (n : Nat) (bytes : List UInt8) : Option (List UInt8 × List UInt8) :=
  if n ≤ bytes.length then some (bytes.take n, bytes.drop n) else none

/-! ### Reading back -/

@[simp] theorem length_bytesOf (width n : Nat) : (bytesOf width n).length = width := by
  induction width generalizing n with
  | zero => rfl
  | succ width ih => simp [bytesOf, ih]

/-- A number is read back if it has enough bytes. -/
theorem natOf_bytesOf {width n : Nat} (h : n < Nat.pow 256 width) :
    natOf (bytesOf width n) = n := by
  induction width generalizing n with
  | zero =>
    obtain rfl : n = 0 := Nat.lt_one_iff.mp h
    rfl
  | succ width ih =>
    have hhigh : n / 256 < Nat.pow 256 width := by
      rw [Nat.div_lt_iff_lt_mul (by decide)]
      exact h
    -- The last byte is the rest of the division by 256.
    unfold bytesOf
    unfold natOf at ih ⊢
    rw [List.foldl_append, ih hhigh, List.foldl_cons, List.foldl_nil, UInt8.toNat_ofNat']
    omega

/-- The front is told apart from the rest by its length. -/
theorem split?_append {n : Nat} {front : List UInt8} (h : front.length = n) (rest : List UInt8) :
    split? n (front ++ rest) = some (front, rest) := by
  subst h
  simp [split?]

end HubAuth.Binary
