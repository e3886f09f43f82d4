import HubAuth.Log

/-! # Outcomes

  What an operation gives: a value or the failure that stopped it, and what it
  logged until then. Outcomes chain; after a failure nothing more happens and
  nothing more is logged.
-/

namespace HubAuth

/-- The result of an operation and its log. -/
structure Outcome (α : Type) where
  /-- The value, or why there is none. -/
  result : Except Failure α
  /-- The entries logged, the oldest first. -/
  log : List Entry

namespace Outcome

variable {α β : Type}

/-- A value without any log. -/
def ok (a : α) : Outcome α :=
  ⟨.ok a, []⟩

/-- A failure without any log. -/
def fail (e : Failure) : Outcome α :=
  ⟨.error e, []⟩

/-- The second operation continues with the value of the first. -/
def andThen (x : Outcome α) (f : α → Outcome β) : Outcome β :=
  match x.result with
  | .error e => ⟨.error e, x.log⟩
  | .ok a => ⟨(f a).result, x.log ++ (f a).log⟩

instance : Monad Outcome where
  pure := ok
  bind := andThen

/-- Logs one entry. -/
def note (entry : Entry) : Outcome Unit :=
  ⟨.ok (), [entry]⟩

/-- A result that logs nothing. -/
def ofExcept (r : Except Failure α) : Outcome α :=
  ⟨r, []⟩

/-! ### What chaining does to result and log -/

@[simp] theorem pure_eq (a : α) : (pure a : Outcome α) = ⟨.ok a, []⟩ := rfl

@[simp] theorem ok_bind (a : α) (log : List Entry) (f : α → Outcome β) :
    ((⟨.ok a, log⟩ : Outcome α) >>= f) = ⟨(f a).result, log ++ (f a).log⟩ := rfl

@[simp] theorem error_bind (e : Failure) (log : List Entry) (f : α → Outcome β) :
    ((⟨.error e, log⟩ : Outcome α) >>= f) = ⟨.error e, log⟩ := rfl

/-- A chain that fails at once logs what its first operation does. -/
theorem bind_of_error {x : Outcome α} {f : α → Outcome β} {e : Failure} (h : x.result = .error e) :
    x >>= f = ⟨.error e, x.log⟩ := by
  obtain ⟨result, log⟩ := x
  obtain rfl : result = .error e := h
  rfl

/-- Otherwise it logs what both operations do. -/
theorem bind_of_ok {x : Outcome α} {f : α → Outcome β} {a : α} (h : x.result = .ok a) :
    x >>= f = ⟨(f a).result, x.log ++ (f a).log⟩ := by
  obtain ⟨result, log⟩ := x
  obtain rfl : result = .ok a := h
  rfl

/-- A chain gives a value exactly if its first operation does and the rest does
    with that value. -/
theorem bind_result_ok {x : Outcome α} {f : α → Outcome β} {b : β} :
    (x >>= f).result = .ok b ↔ ∃ a, x.result = .ok a ∧ (f a).result = .ok b := by
  obtain ⟨result, log⟩ := x
  cases result with
  | error e => simp
  | ok a => simp

/-- A chain fails where its first operation does, or else where the rest does. -/
theorem bind_result_error {x : Outcome α} {f : α → Outcome β} {e : Failure} :
    (x >>= f).result = .error e ↔
      x.result = .error e ∨ ∃ a, x.result = .ok a ∧ (f a).result = .error e := by
  obtain ⟨result, log⟩ := x
  cases result with
  | error e' => simp
  | ok a => simp

/-- A chain logs what its first operation does, and with its value what the rest
    does. -/
theorem mem_log_bind {x : Outcome α} {f : α → Outcome β} {entry : Entry} :
    entry ∈ (x >>= f).log ↔
      entry ∈ x.log ∨ ∃ a, x.result = .ok a ∧ entry ∈ (f a).log := by
  obtain ⟨result, log⟩ := x
  cases result with
  | error e => simp
  | ok a => simp

/-- What happens to the error does not touch a value. -/
theorem ofExcept_mapError_ok {ε : Type} {r : Except ε α} {f : ε → Failure} {a : α} :
    (ofExcept (r.mapError f)).result = .ok a ↔ r = .ok a := by
  constructor
  · intro h
    cases r with
    | error e => cases h
    | ok b =>
      obtain rfl := Except.ok.inj h
      rfl
  · rintro rfl
    rfl

theorem ofExcept_mapError_error {ε : Type} {r : Except ε α} {f : ε → Failure} {e : Failure} :
    (ofExcept (r.mapError f)).result = .error e ↔ ∃ cause, r = .error cause ∧ e = f cause := by
  constructor
  · intro h
    cases r with
    | error cause => exact ⟨cause, rfl, (Except.error.inj h).symm⟩
    | ok b => cases h
  · rintro ⟨cause, rfl, rfl⟩
    rfl

end Outcome

end HubAuth
