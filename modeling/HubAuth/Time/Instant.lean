import HubAuth.Text.Decimal
import HubAuth.Time.Duration

/-! # Points of time

  Seconds since the epoch in the range of a signed 64-bit word. The sum of a
  point of time and a duration stops at the end of the range, so that a token
  never wraps round to an expiry in the past.

  * `add_seconds`: the sum is exact up to the end of the range.
-/

namespace HubAuth

/-- A point of time, in whole seconds since the epoch. -/
structure Instant where
  /-- The seconds, negative before the epoch. -/
  seconds : Int
  /-- The range begins at -2^63. -/
  lower : -9223372036854775808 ≤ seconds
  /-- The range ends at 2^63 - 1. -/
  upper : seconds ≤ 9223372036854775807
  deriving DecidableEq, Repr

namespace Instant

/-! ### Building -/

/-- The point of time with the given seconds, if they are in range. -/
def ofSeconds? (s : Int) : Option Instant :=
  if h : -9223372036854775808 ≤ s ∧ s ≤ 9223372036854775807 then some ⟨s, h.1, h.2⟩
  else none

/-- The last point of time. -/
def last : Instant :=
  ⟨9223372036854775807, by decide, by decide⟩

/-! ### Order and sum -/

instance : LE Instant := ⟨fun a b => a.seconds ≤ b.seconds⟩

instance : LT Instant := ⟨fun a b => a.seconds < b.seconds⟩

instance (a b : Instant) : Decidable (a ≤ b) :=
  inferInstanceAs (Decidable (a.seconds ≤ b.seconds))

instance (a b : Instant) : Decidable (a < b) :=
  inferInstanceAs (Decidable (a.seconds < b.seconds))

theorem le_def {a b : Instant} : a ≤ b ↔ a.seconds ≤ b.seconds := Iff.rfl

theorem lt_def {a b : Instant} : a < b ↔ a.seconds < b.seconds := Iff.rfl

theorem not_le {a b : Instant} : ¬a ≤ b ↔ b < a := Int.not_le

theorem lt_or_le (a b : Instant) : a < b ∨ b ≤ a := Int.lt_or_le a.seconds b.seconds

@[ext] theorem ext {a b : Instant} (h : a.seconds = b.seconds) : a = b := by
  cases a; cases b; simp_all

/-- How far a duration moves a point of time: its whole seconds, at most as
    many as a signed 64-bit word holds. -/
def reach (d : Duration) : Nat :=
  min d.secs 9223372036854775807

/-- The point of time a duration's whole seconds later, or the last one. -/
def add (t : Instant) (d : Duration) : Instant :=
  if h : t.seconds + reach d ≤ 9223372036854775807 then
    ⟨t.seconds + reach d, by have := t.lower; omega, h⟩
  else last

/-- The sum is exact up to the end of the range. -/
theorem add_seconds (t : Instant) (d : Duration) :
    (t.add d).seconds = min 9223372036854775807 (t.seconds + reach d) := by
  unfold add last
  split <;> simp <;> omega

/-! ### Text -/

/-- The seconds in decimal notation. -/
def toText (t : Instant) : List Char :=
  Text.signedDecimal t.seconds

/-- Reads a point of time: an optionally signed decimal number in range. -/
def ofText? (cs : List Char) : Option Instant :=
  (Text.readSigned? cs).bind ofSeconds?

end Instant

end HubAuth
