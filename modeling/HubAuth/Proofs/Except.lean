import Mathlib.Data.List.Forall2

/-! # Results and errors

  A result is a value or an error. Operations that may fail come in chains, and
  the members of a list are read one by one until one of them cannot be.

  * `toOption_eq_some_iff`: the value is there without the error as well.
  * `bind_eq_ok_iff`: a chain gives something if each of its parts does.
  * `mapM_eq_ok_iff`, `mapM_eq_error_iff`: what becomes of a list.
-/

namespace Except

variable {α β ε : Type} {e : ε}

/-- If errors are left out, just the values are left. -/
theorem toOption_eq_some_iff {x : Except ε α} {a : α} : x.toOption = some a ↔ x = .ok a := by
  cases x with
  | error e => simp [Except.toOption]
  | ok b => simp [Except.toOption]

/-! ### Chains -/

/-- A chain gives something exactly if each of its parts does. -/
theorem bind_eq_ok_iff {x : Except ε α} {f : α → Except ε β} {y : β} :
    x >>= f = .ok y ↔ ∃ a, x = .ok a ∧ f a = .ok y := by
  constructor
  · intro h
    cases x with
    | error e => cases h
    | ok a => exact ⟨a, rfl, h⟩
  · intro h
    obtain ⟨a, rfl, h⟩ := h
    exact h

/-- What is done to a value changes no error. -/
theorem map_eq_error_iff {x : Except ε α} {g : α → β} : x.map g = .error e ↔ x = .error e := by
  cases x with
  | error e' => simp [Except.map]
  | ok a => simp [Except.map]

/-! ### Lists -/

variable {f : α → Except ε β} {a : α} {as : List α}

theorem mapM_cons_error (h : f a = .error e) : (a :: as).mapM f = .error e := by
  rw [List.mapM_cons, h]
  rfl

theorem mapM_cons_ok {b : β} (h : f a = .ok b) :
    (a :: as).mapM f = (as.mapM f).map fun bs => b :: bs := by
  rw [List.mapM_cons, h]
  cases as.mapM f with
  | error e => rfl
  | ok bs => rfl

/-- All can be read. -/
theorem mapM_eq_ok_iff {bs : List β} :
    as.mapM f = .ok bs ↔ List.Forall₂ (fun a b => f a = .ok b) as bs := by
  induction as generalizing bs with
  | nil =>
    rw [List.forall₂_nil_left_iff, List.mapM_nil]
    constructor
    · intro h
      exact (Except.ok.inj h).symm
    · rintro rfl
      rfl
  | cons a as ih =>
    rw [List.forall₂_cons_left_iff]
    cases ha : f a with
    | error e =>
      rw [mapM_cons_error ha]
      simp
    | ok b =>
      rw [mapM_cons_ok ha]
      constructor
      · intro h
        cases has : as.mapM f with
        | error e =>
          rw [has] at h
          cases h
        | ok rest =>
          rw [has] at h
          exact ⟨b, rest, rfl, ih.mp has, (Except.ok.inj h).symm⟩
      · intro h
        obtain ⟨b', rest, hb, hrest, rfl⟩ := h
        obtain rfl := Except.ok.inj hb
        rw [ih.mpr hrest]
        rfl

/-- The first that cannot be read is reported. -/
theorem mapM_eq_error_iff :
    as.mapM f = .error e ↔ ∃ before a after, as = before ++ a :: after ∧
      (∀ b ∈ before, ∃ c, f b = .ok c) ∧ f a = .error e := by
  constructor
  · intro h
    induction as with
    | nil => cases h
    | cons a as ih =>
      cases ha : f a with
      | error e' =>
        rw [mapM_cons_error ha] at h
        obtain rfl := Except.error.inj h
        exact ⟨[], a, as, rfl, by simp, ha⟩
      | ok b =>
        rw [mapM_cons_ok ha, map_eq_error_iff] at h
        obtain ⟨before, a', after, rfl, hbefore, ha'⟩ := ih h
        refine ⟨a :: before, a', after, rfl, ?_, ha'⟩
        rw [List.forall_mem_cons]
        exact ⟨⟨b, ha⟩, hbefore⟩
  · intro h
    obtain ⟨before, a, after, rfl, hbefore, ha⟩ := h
    induction before with
    | nil => exact mapM_cons_error ha
    | cons b before ih =>
      rw [List.forall_mem_cons] at hbefore
      obtain ⟨⟨c, hc⟩, hbefore⟩ := hbefore
      rw [List.cons_append, mapM_cons_ok hc, ih hbefore]
      rfl

/-- If each can be read, so can all of them. -/
theorem exists_mapM_ok (h : ∀ a ∈ as, ∃ b, f a = .ok b) : ∃ bs, as.mapM f = .ok bs := by
  cases has : as.mapM f with
  | ok bs => exact ⟨bs, rfl⟩
  | error e =>
    obtain ⟨before, a, after, rfl, -, ha⟩ := mapM_eq_error_iff.mp has
    obtain ⟨b, hb⟩ := h a (List.mem_append_right before List.mem_cons_self)
    rw [ha] at hb
    cases hb

end Except
