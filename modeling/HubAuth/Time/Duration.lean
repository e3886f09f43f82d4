import HubAuth.Text.Decimal

/-! # Durations

  A length of time in whole seconds and a fraction counted in nanoseconds.
  Lifetimes of tokens use the whole seconds only; the fraction is kept because
  a duration is compared and described with it.
-/

namespace HubAuth

/-- A length of time. -/
structure Duration where
  /-- The whole seconds. -/
  secs : Nat
  /-- The rest, in nanoseconds. -/
  nanos : Fin 1000000000
  deriving DecidableEq, Repr

namespace Duration

/-! ### Building and comparing -/

/-- A whole number of seconds. -/
def ofSecs (secs : Nat) : Duration :=
  { secs, nanos := 0 }

/-- A number of milliseconds. -/
def ofMillis (millis : Nat) : Duration :=
  { secs := millis / 1000, nanos := ⟨millis % 1000 * 1000000, by omega⟩ }

/-- The length in nanoseconds, by which durations are ordered. -/
def totalNanos (d : Duration) : Nat :=
  d.secs * 1000000000 + d.nanos.val

/-- The longer of two durations. -/
def max (a b : Duration) : Duration :=
  if a.totalNanos < b.totalNanos then b else a

/-! ### Description -/

/-- A decimal fraction of `places` places, without trailing zeros, after the
    whole number it belongs to. -/
def withFraction (whole fraction places : Nat) : String :=
  let digits := Text.decimal fraction
  let padded := List.replicate (places - digits.length) '0' ++ digits
  let kept := (padded.reverse.dropWhile (· == '0')).reverse
  String.ofList (Text.decimal whole ++ if kept.isEmpty then [] else '.' :: kept)

/-- A duration in the largest unit of which it holds at least one: seconds,
    milliseconds, microseconds, or else nanoseconds. -/
def describe (d : Duration) : String :=
  let n := d.nanos.val
  if 0 < d.secs then withFraction d.secs n 9 ++ "s"
  else if 1000000 ≤ n then withFraction (n / 1000000) (n % 1000000) 6 ++ "ms"
  else if 1000 ≤ n then withFraction (n / 1000) (n % 1000) 3 ++ "µs"
  else withFraction n 0 0 ++ "ns"

end Duration

end HubAuth
