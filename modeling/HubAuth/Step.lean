import HubAuth.Log

/-! # Steps

  What one operation on a state gives: the state after it, a value, and what
  it logged. A step always has a state, so an operation that fails says which
  state it leaves.
-/

namespace HubAuth

/-- The effect of an operation on a state of type `σ`. -/
structure Step (σ α : Type) where
  /-- The state after the operation. -/
  state : σ
  /-- The value of the operation. -/
  value : α
  /-- The entries logged, the oldest first. -/
  log : List Entry

namespace Step

variable {σ α β : Type}

/-- A value that changes nothing and logs nothing. -/
def keep (s : σ) (a : α) : Step σ α :=
  { state := s, value := a, log := [] }

/-- The step with another value. -/
def map (f : α → β) (x : Step σ α) : Step σ β :=
  { state := x.state, value := f x.value, log := x.log }

/-- The step as a step of a larger state. -/
def within {τ : Type} (f : σ → τ) (x : Step σ α) : Step τ α :=
  { state := f x.state, value := x.value, log := x.log }

end Step

end HubAuth
